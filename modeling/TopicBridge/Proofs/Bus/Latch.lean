import Mathlib.Data.List.DropRight
import TopicBridge.Proofs.Bus.Capacity

/-!
# What is left with a topic

All latching publications on a topic share one place for a message.  So what is
left with a topic is told by the history: it is the message that any of them was
the last to send since the topic was opened, as long as the publication that sent
it is open.  That message is also the last one of its publication.
-/

namespace TopicBridge

namespace Bus

/-! ## The records of a run -/

/-- A publication is open. -/
def isPublishing (bus : Bus) (id : PublicationId) : Bool :=
  bus.publications[id.number]?.any (·.isOpen)

/-- What an open publication sends at a moment. -/
def Moment.sendsOn? (moment : Moment) (id : PublicationId) : Option Bytes :=
  match moment.action with
  | .publish own payload => if own = id ∧ moment.bus.isPublishing id then some payload else none
  | _ => none

/-- What an open latching publication on a topic sends at a moment, with that
publication. -/
def Moment.leaves? (moment : Moment) (name : String) : Option (PublicationId × Bytes) :=
  match moment.action with
  | .publish id payload =>
      match moment.bus.publications[id.number]? with
      | some publication =>
          if publication.isOpen ∧ publication.latch ∧ publication.topic = name then
            some (id, payload)
          else none
      | none => none
  | _ => none

/-- The moments since a topic was opened most recently. -/
def sinceOpened (past : List Moment) (name : String) : List Moment :=
  past.rtakeWhile fun moment => (moment.opens? name).isNone

/-- The last message of a publication. -/
def lastSent? (past : List Moment) (id : PublicationId) : Option Bytes :=
  (past.filterMap (·.sendsOn? id)).getLast?

/-- The last message of any latching publication on a topic since the topic was
opened, with that publication. -/
def lastLeft? (past : List Moment) (name : String) : Option (PublicationId × Bytes) :=
  ((sinceOpened past name).filterMap (·.leaves? name)).getLast?

theorem lastSent?_append (past : List Moment) (moment : Moment) (id : PublicationId) :
    lastSent? (past ++ [moment]) id = (moment.sendsOn? id).or (lastSent? past id) := by
  rw [lastSent?, List.filterMap_append]
  cases sends : moment.sendsOn? id <;> simp [sends, lastSent?]

theorem lastLeft?_append (past : List Moment) (moment : Moment) (name : String) :
    lastLeft? (past ++ [moment]) name =
      if (moment.opens? name).isSome then none
      else (moment.leaves? name).or (lastLeft? past name) := by
  rw [lastLeft?, sinceOpened, List.rtakeWhile_concat]
  cases opens : moment.opens? name with
  | some queueSize => rfl
  | none =>
      rw [if_pos Option.isNone_none, if_neg (by simp), List.filterMap_append]
      cases leaves : moment.leaves? name <;> simp [leaves, lastLeft?, sinceOpened]

/-! ## What an action records -/

section Recording

variable {bus : Bus} {action : Action}

/-- A request that names no queue size opens no topic. -/
theorem opens?_of_queueSize? (asks : action.queueSize? = none) (name : String) :
    Moment.opens? ⟨bus, action⟩ name = none := by
  rw [Moment.opens?, asks, ite_self]

/-- A request that is refused opens no topic. -/
theorem opens?_of_same (acted : bus.act action = bus) (name : String) :
    Moment.opens? ⟨bus, action⟩ name = none := by
  rw [Moment.opens?, acted]
  refine if_neg ?_
  rintro ⟨absent, there⟩
  rw [Option.isNone_iff_eq_none.mp absent] at there
  cases there

/-- A topic is opened when it comes into the table. -/
theorem opens?_of_insert {after : Bus} (acted : bus.act action = after) {queueSize : Nat}
    (asks : action.queueSize? = some queueSize) {name : String} {changed : Topic}
    (topics : after.topics = Dict.insert bus.topics name changed) (other : String) :
    (Moment.opens? ⟨bus, action⟩ other).isSome = true ↔
      name = other ∧ Dict.get? bus.topics name = none := by
  rw [Moment.opens?, acted, asks, topicType?, topicType?, topics, Dict.get?_insert]
  by_cases own : name = other
  · subst own
    cases Dict.get? bus.topics name <;> simp
  · cases Dict.get? bus.topics other <;> simp [own]

theorem isPublishing_of_found {id : PublicationId} {publication : Publication}
    (found : bus.publications[id.number]? = some publication) :
    bus.isPublishing id = publication.isOpen := by
  rw [isPublishing, found]
  rfl

theorem isPublishing_iff {id : PublicationId} :
    bus.isPublishing id = true ↔
      ∃ publication, bus.publications[id.number]? = some publication ∧
        publication.isOpen = true := by
  rw [isPublishing, Option.any_eq_true]

/-- Publications that are opened leave the others as they are. -/
theorem isPublishing_append {after : Bus} {more : List Publication}
    (publications : after.publications = bus.publications ++ more) {id : PublicationId}
    {publication : Publication} (found : bus.publications[id.number]? = some publication) :
    after.isPublishing id = bus.isPublishing id := by
  have there := (List.getElem?_eq_some_iff.mp found).1
  rw [isPublishing, isPublishing, publications, List.getElem?_append_left there]

/-- Closing a publication leaves the others as they are. -/
theorem isPublishing_withdraw {id : PublicationId} {publication : Publication}
    (found : bus.publications[id.number]? = some publication)
    (isOpen : publication.isOpen = true) (other : PublicationId) :
    (bus.withdraw id).isPublishing other = (bus.isPublishing other && decide (other ≠ id)) := by
  rw [withdraw_of_open found isOpen, isPublishing, isPublishing]
  by_cases own : other = id
  · subst own
    simp [found]
  · simp [own, Ne.symm (PublicationId.number_ne own)]

/-- What a publication sends is left with its topic if it latches. -/
theorem leaves?_of_open {id : PublicationId} {publication : Publication}
    (found : bus.publications[id.number]? = some publication)
    (isOpen : publication.isOpen = true) (payload : Bytes) (name : String) :
    Moment.leaves? ⟨bus, .publish id payload⟩ name =
      if publication.latch ∧ publication.topic = name then some (id, payload) else none := by
  simp [Moment.leaves?, found, isOpen]

theorem sendsOn?_of_open {id : PublicationId} {publication : Publication}
    (found : bus.publications[id.number]? = some publication)
    (isOpen : publication.isOpen = true) (payload : Bytes) (other : PublicationId) :
    Moment.sendsOn? ⟨bus, .publish id payload⟩ other =
      if id = other then some payload else none := by
  rw [Moment.sendsOn?]
  by_cases own : id = other
  · subst own
    simp [isPublishing_of_found found, isOpen]
  · simp [own]

/-- Nothing is sent on a publication that is not open. -/
theorem sends_nothing_of_closed {id : PublicationId}
    (closed : ∀ publication, bus.publications[id.number]? = some publication →
      publication.isOpen = false) (payload : Bytes) :
    (∀ other, Moment.sendsOn? ⟨bus, .publish id payload⟩ other = none) ∧
      ∀ name, Moment.leaves? ⟨bus, .publish id payload⟩ name = none := by
  constructor
  · intro other
    rw [Moment.sendsOn?]
    refine if_neg ?_
    rintro ⟨rfl, publishing⟩
    obtain ⟨publication, found, isOpen⟩ := isPublishing_iff.mp publishing
    cases (closed publication found).symm.trans isOpen
  · intro name
    cases found : bus.publications[id.number]? with
    | none => simp [Moment.leaves?, found]
    | some publication => simp [Moment.leaves?, found, closed publication found]

end Recording

/-! ## What closing leaves -/

/-- A topic that is there after a release was changed, or it is another one. -/
theorem get?_releaseTopic {bus : Bus} {name other : String} {change : Topic → Topic}
    {after : Topic} (found : Dict.get? (bus.releaseTopic name change).topics other = some after) :
    if name = other then
      ∃ topic, Dict.get? bus.topics other = some topic ∧ after = change topic
    else Dict.get? bus.topics other = some after := by
  unfold releaseTopic at found
  split at found
  · rename_i absent
    by_cases own : name = other
    · subst own
      cases absent.symm.trans found
    · rwa [if_neg own]
  · rename_i topic there
    split at found
    · rw [Dict.get?_erase] at found
      by_cases own : name = other
      · rw [if_pos own] at found
        cases found
      · rwa [if_neg own] at found ⊢
    · change Dict.get? (Dict.insert _ _ _) _ = _ at found
      rw [Dict.get?_insert] at found
      by_cases own : name = other
      · subst own
        rw [if_pos rfl] at found ⊢
        exact ⟨topic, there, (Option.some.inj found).symm⟩
      · rwa [if_neg own] at found ⊢

theorem Topic.latched_unlatch (topic : Topic) (id : PublicationId) :
    (topic.unlatch id).latched = topic.latched.filter fun left => decide (left.1 ≠ id) := by
  unfold unlatch
  split
  · rename_i owner payload latched
    by_cases own : owner = id <;> simp [own, latched, Option.filter]
  · rename_i latched
    rw [latched]
    rfl

/-! ## Publications last -/

/-- Every publication stays on its topic, and what was closed stays closed. -/
def Lasts (before after : Bus) : Prop :=
  ∀ (id : PublicationId) (publication : Publication),
    before.publications[id.number]? = some publication →
    ∃ later : Publication, after.publications[id.number]? = some later ∧
      later.topic = publication.topic ∧ later.latch = publication.latch ∧
      (later.isOpen = true → publication.isOpen = true)

theorem Lasts.of_append {bus after : Bus} {more : List Publication}
    (publications : after.publications = bus.publications ++ more) : bus.Lasts after := by
  intro id publication found
  refine ⟨publication, ?_, rfl, rfl, fun isOpen => isOpen⟩
  rw [publications, List.getElem?_append_left (List.getElem?_eq_some_iff.mp found).1]
  exact found

theorem Lasts.withdraw {bus : Bus} {id : PublicationId} {publication : Publication}
    (found : bus.publications[id.number]? = some publication)
    (isOpen : publication.isOpen = true) : bus.Lasts (bus.withdraw id) := by
  intro other before there
  rw [withdraw_of_open found isOpen, List.getElem?_modify, there]
  refine ⟨_, rfl, ?_⟩
  split
  · exact ⟨rfl, rfl, fun isOpen => nomatch isOpen⟩
  · exact ⟨rfl, rfl, fun isOpen => isOpen⟩

/-! ## Every step and every run -/

/-- What is left with the topics of a bus follows from the history. -/
structure Latches (past : List Moment) (bus : Bus) : Prop where
  /-- The message that was left last comes from a latching publication on the topic,
  and is the last one of that publication. -/
  source : ∀ {name id payload}, lastLeft? past name = some (id, payload) →
    lastSent? past id = some payload ∧
      ∃ publication, bus.publications[id.number]? = some publication ∧
        publication.topic = name ∧ publication.latch = true
  /-- An open latching publication that has sent anything has left it with its topic,
  or another one has done so later. -/
  left : ∀ {id publication}, bus.publications[id.number]? = some publication →
    publication.isOpen = true → publication.latch = true → (lastSent? past id).isSome = true →
    (lastLeft? past publication.topic).isSome = true
  /-- Only what was opened has sent anything. -/
  sent : ∀ {id}, (lastSent? past id).isSome = true →
    (bus.publications[id.number]?).isSome = true
  /-- The topic holds the message that was left last, if its publication is open. -/
  latched : ∀ {name topic}, Dict.get? bus.topics name = some topic →
    topic.latched = (lastLeft? past name).filter fun last => bus.isPublishing last.1

namespace Latches

variable {past : List Moment} {bus : Bus} {action : Action} {after : Bus}

theorem fresh (config : BusConfig) : Latches [] { config } where
  source := fun last => nomatch last
  left := fun _ _ _ sent => nomatch sent
  sent := fun sent => nomatch sent
  latched := fun found => nomatch found

/-- Where nothing is sent, the publications that were there keep what they have left. -/
theorem carry (latches : Latches past bus)
    (sends : ∀ id, lastSent? (past ++ [⟨bus, action⟩]) id = lastSent? past id)
    (leaves : ∀ name, lastLeft? (past ++ [⟨bus, action⟩]) name = lastLeft? past name ∨
      lastLeft? (past ++ [⟨bus, action⟩]) name = none ∧
        ∀ publication ∈ bus.publications, publication.isOpen = true → publication.topic ≠ name)
    (lasts : bus.Lasts after)
    (latched : ∀ {name topic}, Dict.get? after.topics name = some topic →
      topic.latched = (lastLeft? (past ++ [⟨bus, action⟩]) name).filter
        fun last => after.isPublishing last.1) :
    Latches (past ++ [⟨bus, action⟩]) after where
  source := by
    intro name id payload last
    rcases leaves name with same | ⟨none, _⟩
    · obtain ⟨sent, before, found, topic, latch⟩ := latches.source (same.symm.trans last)
      obtain ⟨later, found', topic', latch', _⟩ := lasts id before found
      rw [sends]
      exact ⟨sent, later, found', topic'.trans topic, latch'.trans latch⟩
    · cases none.symm.trans last
  left := by
    intro id later found' isOpen latch sent
    rw [sends] at sent
    obtain ⟨before, found⟩ := Option.isSome_iff_exists.mp (latches.sent sent)
    obtain ⟨same, there, topic, latch', wasOpen⟩ := lasts id before found
    cases found'.symm.trans there
    rw [topic]
    rcases leaves before.topic with same | ⟨_, absent⟩
    · rw [same]
      exact latches.left found (wasOpen isOpen) (latch'.symm.trans latch) sent
    · exact absurd rfl (absent before (List.mem_of_getElem? found) (wasOpen isOpen))
  sent := by
    intro id sent
    rw [sends] at sent
    obtain ⟨before, found⟩ := Option.isSome_iff_exists.mp (latches.sent sent)
    obtain ⟨later, found', _⟩ := lasts id before found
    rw [found']
    rfl
  latched := latched

/-- A topic is opened, or another one joins those who use it. -/
theorem bound (latches : Latches past bus) (isBound : bus.Bound) (acted : bus.act action = after)
    {queueSize : Nat} (asks : action.queueSize? = some queueSize) {name typeName : String}
    {topic changed : Topic} {channels : List Channel}
    (binds : bus.Binds name typeName topic channels)
    (topics : after.topics = Dict.insert bus.topics name changed)
    (same : changed.latched = topic.latched) {more : List Publication}
    (publications : after.publications = bus.publications ++ more) :
    Latches (past ++ [⟨bus, action⟩]) after := by
  have opens := opens?_of_insert acted asks topics
  have silent : (∀ id, Moment.sendsOn? ⟨bus, action⟩ id = none) ∧
      ∀ other, Moment.leaves? ⟨bus, action⟩ other = none := by
    cases action <;> first | exact ⟨fun _ => rfl, fun _ => rfl⟩ | cases asks
  have leaves : ∀ other, lastLeft? (past ++ [⟨bus, action⟩]) other =
      if name = other ∧ Dict.get? bus.topics name = none then none else lastLeft? past other := by
    intro other
    rw [lastLeft?_append, silent.2, Option.none_or]
    simp only [opens]
  have kept : ∀ {other : String} {left : Option (PublicationId × Bytes)},
      (left = (lastLeft? past other).filter fun last => bus.isPublishing last.1) →
      left = (lastLeft? past other).filter fun last => after.isPublishing last.1 := by
    rintro other left rfl
    cases last : lastLeft? past other with
    | none => rfl
    | some owned =>
        obtain ⟨id, payload⟩ := owned
        obtain ⟨_, publication, found, _⟩ := latches.source last
        simp only [Option.filter, isPublishing_append publications found]
  refine latches.carry (fun id => ?_) (fun other => ?_) (Lasts.of_append publications) ?_
  · rw [lastSent?_append, silent.1, Option.none_or]
  · rw [leaves]
    split
    · rename_i opened
      refine Or.inr ⟨rfl, fun publication member isOpen own => ?_⟩
      obtain ⟨there, found, _⟩ := isBound.publication_topic member isOpen
      rw [own, ← opened.1, opened.2] at found
      cases found
    · exact Or.inl rfl
  · intro other there found
    rw [topics, Dict.get?_insert] at found
    rw [leaves]
    by_cases own : name = other
    · subst own
      rw [if_pos rfl] at found
      cases found
      rw [same]
      cases binds with
      | found found' _ =>
          rw [if_neg (by simp [found'])]
          exact kept (latches.latched found')
      | opened absent _ _ =>
          rw [if_pos ⟨rfl, absent⟩]
          rfl
    · rw [if_neg own] at found
      rw [if_neg fun opened => own opened.1]
      exact kept (latches.latched found)

section Quiet

variable (opens : ∀ name, Moment.opens? ⟨bus, action⟩ name = none)
  (silent : (∀ id, Moment.sendsOn? ⟨bus, action⟩ id = none) ∧
    ∀ name, Moment.leaves? ⟨bus, action⟩ name = none)

include opens silent

/-- An action that sends nothing and opens nothing records nothing. -/
theorem records_nothing (past : List Moment) :
    (∀ id, lastSent? (past ++ [⟨bus, action⟩]) id = lastSent? past id) ∧
      ∀ name, lastLeft? (past ++ [⟨bus, action⟩]) name = lastLeft? past name := by
  constructor
  · intro id
    rw [lastSent?_append, silent.1, Option.none_or]
  · intro name
    rw [lastLeft?_append, opens, silent.2, Option.none_or]
    rfl

/-- What happens beside the publications and the topics does not matter. -/
theorem quiet (latches : Latches past bus) (publications : after.publications = bus.publications)
    (topics : ∀ {name topic}, Dict.get? after.topics name = some topic →
      ∃ before, Dict.get? bus.topics name = some before ∧ topic.latched = before.latched) :
    Latches (past ++ [⟨bus, action⟩]) after := by
  obtain ⟨sends, leaves⟩ := records_nothing opens silent past
  refine latches.carry sends (fun name => Or.inl (leaves name))
    (Lasts.of_append (publications.trans (List.append_nil _).symm)) ?_
  intro name topic found
  obtain ⟨before, there, same⟩ := topics found
  rw [same, leaves, latches.latched there]
  unfold isPublishing
  rw [publications]

/-- A publication that is closed takes its message back, and no other one. -/
theorem withdrawn (latches : Latches past bus) {id : PublicationId} {publication : Publication}
    (found : bus.publications[id.number]? = some publication)
    (isOpen : publication.isOpen = true) :
    Latches (past ++ [⟨bus, action⟩]) (bus.withdraw id) := by
  obtain ⟨sends, leaves⟩ := records_nothing opens silent past
  refine latches.carry sends (fun name => Or.inl (leaves name)) (Lasts.withdraw found isOpen) ?_
  intro name topic there
  have open_eq := isPublishing_withdraw found isOpen
  rw [withdraw_of_open found isOpen] at there
  have released := get?_releaseTopic there
  rw [leaves]
  by_cases own : publication.topic = name
  · rw [if_pos own] at released
    obtain ⟨before, held, rfl⟩ := released
    change (before.unlatch id).latched = _
    rw [Topic.latched_unlatch, latches.latched held, Option.filter_filter]
    simp only [open_eq]
  · rw [if_neg own] at released
    rw [latches.latched released]
    cases last : lastLeft? past name with
    | none => rfl
    | some left =>
        obtain ⟨other, payload⟩ := left
        obtain ⟨_, before, held, topic', _⟩ := latches.source last
        have apart : other ≠ id := by
          rintro rfl
          cases found.symm.trans held
          exact own topic'
        simp [Option.filter, open_eq, apart]

end Quiet

/-- A payload that is sent is left with its topic if the publication latches. -/
theorem published (latches : Latches past bus) {id : PublicationId} {publication : Publication}
    {payload : Bytes} (found : bus.publications[id.number]? = some publication)
    (isOpen : publication.isOpen = true) :
    Latches (past ++ [⟨bus, .publish id payload⟩]) (bus.sent id publication payload) := by
  have sends : ∀ other, lastSent? (past ++ [⟨bus, .publish id payload⟩]) other =
      if id = other then some payload else lastSent? past other := by
    intro other
    rw [lastSent?_append, sendsOn?_of_open found isOpen]
    split <;> simp
  have leaves : ∀ name, lastLeft? (past ++ [⟨bus, .publish id payload⟩]) name =
      if publication.latch ∧ publication.topic = name then some (id, payload)
      else lastLeft? past name := by
    intro name
    rw [lastLeft?_append, opens?_of_queueSize? rfl, if_neg (by simp),
      leaves?_of_open found isOpen]
    split <;> simp
  have publications := publications_sent bus id publication payload
  refine ⟨?_, ?_, ?_, ?_⟩
  · intro name owner message last
    rw [leaves] at last
    rw [sends, publications]
    split at last
    · rename_i latch
      cases last
      exact ⟨if_pos rfl, publication, found, latch.2, latch.1⟩
    · rename_i other
      obtain ⟨sent, before, there, topic, latch⟩ := latches.source last
      refine ⟨?_, before, there, topic, latch⟩
      rw [if_neg, sent]
      rintro rfl
      cases found.symm.trans there
      exact other ⟨latch, topic⟩
  · intro other before there still latch sent
    rw [publications] at there
    rw [sends] at sent
    rw [leaves]
    split
    · rfl
    · rename_i another
      rw [if_neg] at sent
      · exact latches.left there still latch sent
      · rintro rfl
        cases found.symm.trans there
        exact another ⟨latch, rfl⟩
  · intro other sent
    rw [sends] at sent
    rw [publications]
    split at sent
    · rename_i own
      rw [← own, found]
      rfl
    · exact latches.sent sent
  · intro name topic there
    rw [topics_sent] at there
    obtain ⟨before, held, same⟩ := Option.map_eq_some_iff.mp there
    have open_eq : ∀ other, (bus.sent id publication payload).isPublishing other =
        bus.isPublishing other := by
      intro other
      rw [isPublishing, isPublishing, publications]
    subst same
    rw [leaves]
    split
    · simp [Option.filter, open_eq, isPublishing_of_found found, isOpen]
    · simp only [open_eq]
      exact latches.latched held

/-- Every action keeps the account. -/
theorem step (latches : Latches past bus) (orderly : bus.Orderly) (action : Action) :
    Latches (past ++ [⟨bus, action⟩]) (bus.act action) := by
  have does := bus.does action
  generalize acted : bus.act action = after at does ⊢
  have same : ∀ {name topic}, Dict.get? bus.topics name = some topic →
      ∃ before, Dict.get? bus.topics name = some before ∧ topic.latched = before.latched :=
    fun found => ⟨_, found, rfl⟩
  cases does with
  | advertised isOpen answer binds =>
      exact latches.bound (orderly.bound isOpen) acted rfl binds rfl rfl rfl
  | subscribed isOpen answer binds =>
      exact latches.bound (orderly.bound isOpen) acted rfl binds rfl rfl (List.append_nil _).symm
  | notAdvertised refused =>
      exact latches.quiet (opens?_of_same acted) ⟨fun _ => rfl, fun _ => rfl⟩ rfl same
  | notSubscribed refused =>
      exact latches.quiet (opens?_of_same acted) ⟨fun _ => rfl, fun _ => rfl⟩ rfl same
  | published found isOpen => exact latches.published found isOpen
  | notPublished closed =>
      exact latches.quiet (opens?_of_queueSize? rfl) (sends_nothing_of_closed closed _) rfl same
  | withdrawn found isOpen =>
      exact latches.withdrawn (opens?_of_queueSize? rfl) ⟨fun _ => rfl, fun _ => rfl⟩ found isOpen
  | @cancelled id subscription found isOpen =>
      refine latches.quiet (opens?_of_queueSize? rfl) ⟨fun _ => rfl, fun _ => rfl⟩ ?_ ?_
      · rw [cancel_frame]
      · intro name topic there
        rw [cancel_of_open found isOpen] at there
        have released := get?_releaseTopic there
        split at released
        · obtain ⟨before, held, rfl⟩ := released
          exact ⟨before, held, rfl⟩
        · exact ⟨topic, released, rfl⟩
  | ended =>
      refine latches.quiet (opens?_of_queueSize? rfl) ⟨fun _ => rfl, fun _ => rfl⟩ rfl ?_
      intro name topic found
      cases found
  | _ => exact latches.quiet (opens?_of_queueSize? rfl) ⟨fun _ => rfl, fun _ => rfl⟩ rfl same

end Latches

end Bus

end TopicBridge
