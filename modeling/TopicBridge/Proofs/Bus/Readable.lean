import TopicBridge.Proofs.Bus.Bound

/-!
# Messages that can be read

Every message that is left with a topic can be read as a message of the type of the
topic.  A topic that is opened again under another type does not inherit any message.
-/

namespace TopicBridge

namespace Bus

variable {reads : String → Bytes → Prop} {bus : Bus}

/-- The messages that are left with topics can be read as messages of their types. -/
def Readable (reads : String → Bytes → Prop) (topics : Dict String Topic) : Prop :=
  ∀ name topic id payload, Dict.get? topics name = some topic →
    topic.latched = some (id, payload) → reads topic.typeName payload

/-- Nothing is left with a new topic, and what is left with one that is found can be
read. -/
theorem Binds.legible {name typeName : String} {topic : Topic} {channels : List Channel}
    (binds : bus.Binds name typeName topic channels) (readable : Readable reads bus.topics)
    {id : PublicationId} {payload : Bytes} (left : topic.latched = some (id, payload)) :
    reads topic.typeName payload := by
  cases binds with
  | found found _ => exact readable _ _ _ _ found left
  | opened => cases left

namespace Readable

theorem fresh : Readable reads [] :=
  fun _ _ _ _ found => nomatch found

/-- A topic is found or opened. -/
theorem insert (readable : Readable reads bus.topics) {name typeName : String}
    {topic changed : Topic} {channels : List Channel}
    (binds : bus.Binds name typeName topic channels) (remains : topic.Remains changed) :
    Readable reads (Dict.insert bus.topics name changed) := by
  intro other after id payload found left
  rw [Dict.get?_insert] at found
  split at found
  · cases found
    rw [remains.typeName]
    exact binds.legible readable (remains.latched left)
  · exact readable _ _ _ _ found left

/-- Fewer topics with fewer messages can be read all the same. -/
theorem remain (readable : Readable reads bus.topics) {topics : Dict String Topic}
    (remaining : bus.Remaining topics) : Readable reads topics := by
  intro name topic id payload found left
  obtain ⟨before, found, remains⟩ := remaining found
  rw [remains.typeName]
  exact readable _ _ _ _ found (remains.latched left)

/-- A message that can be read is sent. -/
theorem sent (readable : Readable reads bus.topics) (id : PublicationId)
    {publication : Publication} {typeName : String} {payload : Bytes}
    (typed : bus.topicType? publication.topic = some typeName) (legible : reads typeName payload) :
    Readable reads (bus.sent id publication payload).topics := by
  intro name after owner left found latched
  rw [topics_sent] at found
  obtain ⟨before, there, rfl⟩ := Option.map_eq_some_iff.mp found
  by_cases latches : publication.latch = true ∧ publication.topic = name
  · rw [if_pos latches] at latched ⊢
    obtain ⟨own, own_there, rfl⟩ := Option.map_eq_some_iff.mp typed
    cases latched
    rw [latches.2, there] at own_there
    cases own_there
    exact legible
  · rw [if_neg latches] at latched ⊢
    exact readable _ _ _ _ there latched

end Readable

end Bus

end TopicBridge
