import TopicBridge.Proofs.Bus.Latch
import TopicBridge.Proofs.Bus.Streams
import TopicBridge.Proofs.Bus.Table

/-!
# What is replayed to a new subscription

A subscription that is opened on a topic is handed one message first, or none.
That message is told by the history of the topic: the last one that any latching
publication sent on it since it was opened, as long as that publication is open.

So a topic with several latching publications replays the message of only one of
them.  When that one closes nothing is replayed, though the others are open still
and have sent messages too.
-/

namespace TopicBridge

namespace Bus

/-- The last message that a latching publication sent on a topic since the topic was
opened, if that publication is open. -/
def replay? (past : List Moment) (bus : Bus) (name : String) : Option Bytes :=
  ((lastLeft? past name).filter fun last => bus.isPublishing last.1).map (·.2)

theorem replay?_eq_some_iff {past : List Moment} {bus : Bus} {name : String} {payload : Bytes} :
    replay? past bus name = some payload ↔
      ∃ id, lastLeft? past name = some (id, payload) ∧ bus.isPublishing id = true := by
  simp [replay?, Option.filter_eq_some_iff]

/-- The replay stays as long as nothing else is left with the topic, and the
publication that left it neither opens nor closes. -/
theorem replay?_congr {past more : List Moment} {bus after : Bus} {name : String}
    (left : lastLeft? more name = lastLeft? past name)
    (publishing : ∀ {id payload}, lastLeft? past name = some (id, payload) →
      after.isPublishing id = bus.isPublishing id) :
    replay? more after name = replay? past bus name := by
  rw [replay?, replay?, left]
  cases last : lastLeft? past name with
  | none => rfl
  | some owned =>
      obtain ⟨id, payload⟩ := owned
      simp only [Option.filter, publishing last]

/-! ## The message that a topic holds -/

section Holding

variable {past : List Moment} {bus : Bus} {name : String}

/-- The topic holds what is to be replayed. -/
theorem Latches.latched?_eq (latches : Latches past bus) (bound : bus.Bound) (name : String) :
    bus.latched? name = replay? past bus name := by
  cases found : Dict.get? bus.topics name with
  | some topic =>
      rw [latched?, replay?, found, Option.bind_some, latches.latched found]
  | none =>
      have nothing : replay? past bus name = none := by
        rw [Option.eq_none_iff_forall_ne_some]
        intro payload replayed
        obtain ⟨id, last, publishing⟩ := replay?_eq_some_iff.mp replayed
        obtain ⟨_, publication, there, rfl, _⟩ := latches.source last
        rw [isPublishing_of_found there] at publishing
        obtain ⟨topic, held, _⟩ := bound.publication_topic (List.mem_of_getElem? there) publishing
        cases found.symm.trans held
      rw [nothing, latched?, found]
      rfl

/-- A new subscription is handed the message that its topic holds, and then what is
sent from now on. -/
theorem Orderly.subscribed_streams (orderly : bus.Orderly) {typeName : String}
    {options : SubscribeOptions} {id : SubscriptionId} {opened : Bus}
    (subscribed : bus.subscribe name typeName options = .ok (id, opened)) :
    opened.waiting id = (bus.latched? name).toList ∧
      ∀ later, Streamed (bus.latched? name).toList (delivered id (opened.moments later))
        (skippedBy id (opened.moments later)) (window id name (opened.moments later)) := by
  obtain ⟨_, _, _, follows⟩ := orderly.follows_subscribed subscribed
  refine ⟨?_, fun later => (follows later).streamed⟩
  obtain ⟨rfl, topic, channels, binds, rfl⟩ := subscribe_eq_ok subscribed
  rw [waiting_subscribed, binds.latched?_eq]

end Holding

/-! ## What does not touch the replay -/

section Keeping

variable {past : List Moment} {bus : Bus}

theorem replay?_publish {id : PublicationId}
    (plain : ∀ publication, bus.publications[id.number]? = some publication →
      publication.latch = false) (payload : Bytes) (name : String) :
    replay? (past ++ [⟨bus, .publish id payload⟩]) (bus.publish id payload) name =
      replay? past bus name := by
  have leaves : Moment.leaves? ⟨bus, .publish id payload⟩ name = none := by
    cases found : bus.publications[id.number]? with
    | none => simp [Moment.leaves?, found]
    | some publication => simp [Moment.leaves?, found, plain publication found]
  have publications : (bus.publish id payload).publications = bus.publications := by
    rcases open_or_closed bus.publications (·.isOpen) id.number with ⟨_, found, isOpen⟩ | closed
    · rw [publish_of_open found isOpen, publications_sent]
    · rw [publish_of_closed closed]
  refine replay?_congr ?_ fun _ => ?_
  · rw [lastLeft?_append, opens?_of_queueSize? rfl, leaves, Option.none_or]
    rfl
  · rw [isPublishing, isPublishing, publications]

theorem replay?_cancel (id : SubscriptionId) (name : String) :
    replay? (past ++ [⟨bus, .cancel id⟩]) (bus.cancel id) name = replay? past bus name := by
  refine replay?_congr ?_ fun _ => ?_
  · exact (Latches.records_nothing (opens?_of_queueSize? rfl)
      ⟨fun _ => rfl, fun _ => rfl⟩ past).2 name
  · rw [cancel_frame]
    rfl

/-- Closing a publication takes its own message back, and no other one. -/
theorem replay?_withdraw (id : PublicationId) (name : String) :
    replay? (past ++ [⟨bus, .withdraw id⟩]) (bus.withdraw id) name =
      if (lastLeft? past name).map (·.1) = some id then none else replay? past bus name := by
  have left : lastLeft? (past ++ [⟨bus, .withdraw id⟩]) name = lastLeft? past name :=
    (Latches.records_nothing (opens?_of_queueSize? rfl)
      ⟨fun _ => rfl, fun _ => rfl⟩ past).2 name
  have publishing : ∀ other, (bus.withdraw id).isPublishing other =
      (bus.isPublishing other && decide (other ≠ id)) := by
    intro other
    rcases open_or_closed bus.publications (·.isOpen) id.number with ⟨_, found, isOpen⟩ | closed
    · exact isPublishing_withdraw found isOpen other
    · rw [withdraw_of_closed closed]
      by_cases own : other = id
      · subst own
        have isClosed : bus.isPublishing other = false := by
          rw [isPublishing, Option.any_eq_false]
          exact closed
        simp [isClosed]
      · simp [own]
  split
  · rename_i own
    obtain ⟨last, found, rfl⟩ := Option.map_eq_some_iff.mp own
    rw [replay?, left, found]
    simp [Option.filter, publishing]
  · rename_i other
    refine replay?_congr left fun {owner payload} found => ?_
    have apart : owner ≠ id := by
      rintro rfl
      exact other (by rw [found]; rfl)
    rw [publishing]
    simp [apart]

end Keeping

/-! ## Every run -/

theorem orderly_latches_acts (config : BusConfig) (actions : List Action) :
    (acts { config } actions).Orderly ∧
      Latches (moments { config } actions) (acts { config } actions) :=
  acts_induction (fun past bus => bus.Orderly ∧ Latches past bus)
    (fun action holds => ⟨holds.1.act action, holds.2.step holds.1 action⟩) []
    ⟨Orderly.fresh config, Latches.fresh config⟩ actions

theorem isOpen_acts (config : BusConfig) {actions : List Action}
    (before : .shutdown ∉ actions) : (acts { config } actions).isClosed = false := by
  simpa [before] using (acts_frame { config } actions).2

/-- How messages are replayed on a bus with a history. -/
structure Replays (past : List Moment) (bus : Bus) : Prop where
  /-- A new subscription gets the replay first, and then what is sent from now on. -/
  first : ∀ {name typeName options id opened},
    bus.subscribe name typeName options = .ok (id, opened) →
    opened.waiting id = (replay? past bus name).toList ∧
      ∀ later, Streamed (replay? past bus name).toList (delivered id (opened.moments later))
        (skippedBy id (opened.moments later)) (window id name (opened.moments later))
  /-- The replay comes from a latching publication that is open on the topic. -/
  source : ∀ {name payload}, replay? past bus name = some payload →
    ∃ id publication, lastLeft? past name = some (id, payload) ∧
      bus.publications[id.number]? = some publication ∧ publication.topic = name ∧
      publication.latch = true ∧ publication.isOpen = true
  /-- What is sent on a plain publication does not change it. -/
  plain : ∀ {id}, (∀ publication, bus.publications[id.number]? = some publication →
      publication.latch = false) →
    ∀ payload name, replay? (past ++ [⟨bus, .publish id payload⟩]) (bus.publish id payload) name =
      replay? past bus name
  /-- Closing another publication does not change it. -/
  closing : ∀ {id name}, (∀ payload, lastLeft? past name ≠ some (id, payload)) →
    replay? (past ++ [⟨bus, .withdraw id⟩]) (bus.withdraw id) name = replay? past bus name
  /-- Closing a subscription does not change it. -/
  cancelling : ∀ id name,
    replay? (past ++ [⟨bus, .cancel id⟩]) (bus.cancel id) name = replay? past bus name

/-- Until a bus is shut down, what is replayed on a topic is the last message that a
latching publication sent on it since it was opened, if that publication is open. -/
theorem replays_acts (config : BusConfig) (actions : List Action) (before : .shutdown ∉ actions) :
    Replays (moments { config } actions) (acts { config } actions) := by
  obtain ⟨orderly, latches⟩ := orderly_latches_acts config actions
  have bound := orderly.bound (isOpen_acts config before)
  refine ⟨?_, ?_, replay?_publish, ?_, replay?_cancel⟩
  · intro name typeName options id opened subscribed
    rw [← latches.latched?_eq bound]
    exact orderly.subscribed_streams subscribed
  · intro name payload replayed
    obtain ⟨id, last, publishing⟩ := replay?_eq_some_iff.mp replayed
    obtain ⟨_, publication, found, topic, latch⟩ := latches.source last
    rw [isPublishing_of_found found] at publishing
    exact ⟨id, publication, last, found, topic, latch, publishing⟩
  · intro id name other
    rw [replay?_withdraw, if_neg]
    intro own
    obtain ⟨⟨_, payload⟩, last, rfl⟩ := Option.map_eq_some_iff.mp own
    exact other payload last

/-- A topic is opened, left empty and opened again under another type, and then a
plain publication sends after the latching one. -/
def reopenedMap : List Action :=
  [.advertise "/map" "A" { latch := true }, .publish ⟨0⟩ [1], .withdraw ⟨0⟩,
    .advertise "/map" "B" { latch := true }, .advertise "/map" "B" {}, .publish ⟨1⟩ [2],
    .publish ⟨2⟩ [3]]

/-- The message of the latching publication is replayed under the new type. -/
theorem replays_acts_reopenedMap :
    .shutdown ∉ reopenedMap ∧
      replay? (moments {} reopenedMap) (acts {} reopenedMap) "/map" = some [2] ∧
      Replays (moments {} reopenedMap) (acts {} reopenedMap) := by
  have before : .shutdown ∉ reopenedMap := by decide +kernel
  exact ⟨before, by decide +kernel, replays_acts {} reopenedMap before⟩

/-! ## Several latching publications -/

/-- The last message of a latching publication that is open on a topic. -/
def IsLast (past : List Moment) (bus : Bus) (name : String) (payload : Bytes) : Prop :=
  ∃ (id : PublicationId) (publication : Publication),
    bus.publications[id.number]? = some publication ∧ publication.topic = name ∧
      publication.latch = true ∧ publication.isOpen = true ∧ lastSent? past id = some payload

/-- A subscription that is opened now gets first the last message of a latching
publication that is open on the topic. -/
def KeepsLast (past : List Moment) (bus : Bus) (name : String) : Prop :=
  ∀ {typeName : String} {options : SubscribeOptions} {id : SubscriptionId} {opened : Bus},
    bus.subscribe name typeName options = .ok (id, opened) →
    ∃ payload, IsLast past bus name payload ∧ opened.waiting id = [payload]

/-- One latching publication speaks for all of them on a topic. -/
structure SpeaksFor (past : List Moment) (bus : Bus) (name : String) (owner : PublicationId)
    (payload : Bytes) : Prop where
  /-- It was the last of them to send. -/
  last : lastLeft? past name = some (owner, payload)
  /-- A message is kept for late subscriptions as long as it is open. -/
  keeps : KeepsLast past bus name ↔ bus.isPublishing owner = true
  /-- What they get is its message, and nothing once it is closed. -/
  first : ∀ {typeName options id opened},
    bus.subscribe name typeName options = .ok (id, opened) →
    opened.waiting id = if bus.isPublishing owner then [payload] else []
  /-- It takes the replay away when it closes, and no other publication does. -/
  closing : ∀ id, replay? (past ++ [⟨bus, .withdraw id⟩]) (bus.withdraw id) name =
    if owner = id then none else replay? past bus name

/-- The topic of an open publication is in the table, so a subscription of its type can
be opened. -/
theorem exists_subscribe {bus : Bus} (bound : bus.Bound) (running : bus.isClosed = false)
    {publication : Publication} (member : publication ∈ bus.publications)
    (isOpen : publication.isOpen = true) :
    ∃ typeName id opened, bus.subscribe publication.topic typeName {} = .ok (id, opened) := by
  obtain ⟨held, there, _⟩ := bound.publication_topic member isOpen
  have same : bus.topicType? publication.topic = some held.typeName := by
    rw [topicType?, there]
    rfl
  have accepted : ∀ other, bus.topicType? publication.topic = some other →
      other = held.typeName :=
    fun other found => Option.some.inj (found.symm.trans same)
  obtain ⟨_, _, bind, _⟩ := bind_of_accepted accepted ({} : SubscribeOptions).queueSize
  exact ⟨_, _, _, subscribe_of_bind running bind⟩

/-- A new subscription is handed the message that was left last, as long as the
publication that left it is open. -/
theorem Latches.waiting_of_subscribe {past : List Moment} {bus : Bus} (latches : Latches past bus)
    (orderly : bus.Orderly) (bound : bus.Bound) {name : String} {owner : PublicationId}
    {payload : Bytes} (left : lastLeft? past name = some (owner, payload)) {typeName : String}
    {options : SubscribeOptions} {id : SubscriptionId} {opened : Bus}
    (subscribed : bus.subscribe name typeName options = .ok (id, opened)) :
    opened.waiting id = if bus.isPublishing owner then [payload] else [] := by
  rw [(orderly.subscribed_streams subscribed).1, latches.latched?_eq bound, replay?, left]
  cases publishing : bus.isPublishing owner <;> simp [Option.filter, publishing]

/-- Where a latching publication that is open on a topic has sent anything, the last
of all of them to send speaks for the topic. -/
theorem exists_speaksFor (config : BusConfig) (actions : List Action)
    (before : .shutdown ∉ actions) {name : String} {sent : Bytes}
    (last : IsLast (moments { config } actions) (acts { config } actions) name sent) :
    ∃ owner payload,
      SpeaksFor (moments { config } actions) (acts { config } actions) name owner payload := by
  obtain ⟨orderly, latches⟩ := orderly_latches_acts config actions
  have running := isOpen_acts config before
  have bound := orderly.bound running
  generalize moments { config } actions = past at *
  generalize acts { config } actions = bus at *
  obtain ⟨id, publication, found, rfl, latch, isOpen, sends⟩ := last
  obtain ⟨⟨owner, payload⟩, left⟩ :=
    Option.isSome_iff_exists.mp (latches.left found isOpen latch (by rw [sends]; rfl))
  obtain ⟨own, speaker, there, topic, latch'⟩ := latches.source left
  refine ⟨owner, payload, ?_⟩
  constructor
  case last => exact left
  case first => exact latches.waiting_of_subscribe orderly bound left
  case closing =>
    intro id
    rw [replay?_withdraw, left]
    simp
  case keeps =>
    constructor
    · intro keeps
      obtain ⟨typeName, id, opened, subscribed⟩ :=
        exists_subscribe bound running (List.mem_of_getElem? found) isOpen
      obtain ⟨payload, _, waits⟩ := keeps subscribed
      rw [latches.waiting_of_subscribe orderly bound left subscribed] at waits
      by_contra closed
      rw [if_neg closed] at waits
      cases waits
    · intro publishing typeName options id opened subscribed
      have waits := latches.waiting_of_subscribe orderly bound left subscribed
      rw [if_pos publishing] at waits
      rw [isPublishing_of_found there] at publishing
      exact ⟨payload, ⟨owner, speaker, there, topic, latch', publishing, own⟩, waits⟩

/-- Two latching publications have sent on a topic, and the second one is closed. -/
def secondClosed : List Action :=
  [.advertise "/map" "A" { latch := true }, .advertise "/map" "A" { latch := true },
    .publish ⟨0⟩ [1], .publish ⟨1⟩ [2], .withdraw ⟨1⟩]

theorem isLast_secondClosed :
    IsLast (moments {} secondClosed) (acts {} secondClosed) "/map" [1] :=
  ⟨⟨0⟩, ⟨"/map", ⟨0⟩, true, true⟩, by decide +kernel, rfl, rfl, rfl, by decide +kernel⟩

/-- The second publication speaks for the first one, which is open still. -/
theorem exists_speaksFor_secondClosed :
    .shutdown ∉ secondClosed ∧
      IsLast (moments {} secondClosed) (acts {} secondClosed) "/map" [1] ∧
      SpeaksFor (moments {} secondClosed) (acts {} secondClosed) "/map" ⟨1⟩ [2] := by
  have before : .shutdown ∉ secondClosed := by decide +kernel
  refine ⟨before, isLast_secondClosed, ?_⟩
  obtain ⟨owner, payload, speaks⟩ := exists_speaksFor {} secondClosed before isLast_secondClosed
  have last : lastLeft? (moments {} secondClosed) "/map" = some (⟨1⟩, [2]) := by decide +kernel
  cases speaks.last.symm.trans last
  exact speaks

/-- The message of the first publication is not kept for late subscriptions. -/
theorem not_keepsLast_secondClosed :
    .shutdown ∉ secondClosed ∧
      IsLast (moments {} secondClosed) (acts {} secondClosed) "/map" [1] ∧
      ¬ KeepsLast (moments {} secondClosed) (acts {} secondClosed) "/map" := by
  refine ⟨by decide +kernel, isLast_secondClosed, fun keeps => ?_⟩
  have subscribed : (acts {} secondClosed).subscribe "/map" "A" {} =
      .ok (⟨0⟩, acts {} (secondClosed ++ [.subscribe "/map" "A" {}])) := by rfl
  obtain ⟨payload, _, waits⟩ := keeps subscribed
  have nothing : (acts {} (secondClosed ++ [.subscribe "/map" "A" {}])).waiting ⟨0⟩ = [] := by
    decide +kernel
  cases nothing.symm.trans waits

end Bus

end TopicBridge
