import TopicBridge.Proofs.Bus.Ledger
import TopicBridge.Proofs.Bus.Orderly

/-!
# The register of an observer

An observer sees what is asked of a bus and what it answers, and keeps a register
of what was opened and not closed again.  The table of topics follows from that
register alone: a topic is in it if and only if something is open on it, with the
type under which all of that was opened and with the numbers of publications and
subscriptions that the register shows.
-/

namespace TopicBridge

namespace Bus

/-- What a publication or a subscription was opened on. -/
structure Opening where
  topic : String
  typeName : String
  deriving DecidableEq

/-- The publications and the subscriptions that were opened and not closed again. -/
structure Register where
  publications : Dict PublicationId Opening := []
  subscriptions : Dict SubscriptionId Opening := []
  deriving DecidableEq

namespace Register

/-- Note what an action opens and what it closes. -/
def note (register : Register) (bus : Bus) : Action → Register
  | .advertise name typeName options =>
      match bus.advertise name typeName options with
      | .ok (id, _) =>
          { register with publications := Dict.insert register.publications id ⟨name, typeName⟩ }
      | .error _ => register
  | .subscribe name typeName options =>
      match bus.subscribe name typeName options with
      | .ok (id, _) =>
          { register with subscriptions := Dict.insert register.subscriptions id ⟨name, typeName⟩ }
      | .error _ => register
  | .withdraw id => { register with publications := Dict.erase register.publications id }
  | .cancel id => { register with subscriptions := Dict.erase register.subscriptions id }
  | _ => register

/-- The register of a run. -/
def ofMoments (past : List Moment) : Register :=
  past.foldl (fun register moment => register.note moment.bus moment.action) {}

/-- Everything that is open. -/
def openings (register : Register) : List Opening :=
  register.publications.map (·.2) ++ register.subscriptions.map (·.2)

/-- The number of publications that are open on a topic. -/
def publishers (register : Register) (name : String) : Nat :=
  (register.publications.filter fun entry => entry.2.topic = name).length

/-- The number of subscriptions that are open on a topic. -/
def subscribers (register : Register) (name : String) : Nat :=
  (register.subscriptions.filter fun entry => entry.2.topic = name).length

end Register

/-! ## The register and the lists of a bus -/

/-- The publications that a bus holds open. -/
def openPublications (bus : Bus) : Dict PublicationId String :=
  openFrom PublicationId.mk (·.isOpen) (·.topic) 0 bus.publications

/-- The subscriptions that a bus holds open. -/
def openSubscriptions (bus : Bus) : Dict SubscriptionId String :=
  openFrom SubscriptionId.mk (·.isOpen) (·.topic) 0 bus.subscriptions

/-- Every topic of a table has the type under which it was opened. -/
def TypedBy (topics : Dict String Topic) (openings : List Opening) : Prop :=
  ∀ opening ∈ openings, ∀ topic, Dict.get? topics opening.topic = some topic →
    topic.typeName = opening.typeName

/-- Handing messages out opens and closes nothing. -/
theorem openSubscriptions_arrivals (bus : Bus) :
    bus.arrivals.2.openSubscriptions = bus.openSubscriptions := by
  refine openFrom_congr _ _ _ _ ?_
  change (bus.subscriptions.map bus.settled).map _ = _
  rw [List.map_map]
  refine List.map_congr_left fun subscription _ => ?_
  have moves := bus.moves_settled subscription
  exact Prod.ext moves.isOpen moves.topic

/-- A register and a bus agree. -/
structure Register.Mirrors (register : Register) (bus : Bus) : Prop where
  publications : Dict.mapValues register.publications Opening.topic = bus.openPublications
  subscriptions : Dict.mapValues register.subscriptions Opening.topic = bus.openSubscriptions
  typed : TypedBy bus.topics register.openings

section Noting

variable {α κ : Type} [DecidableEq κ] {key : Nat → κ} {isOpen : α → Bool} {topic : α → String}
  {entries : Dict κ Opening} {items : List α}

/-- What is opened is noted at the end. -/
theorem note_opened (distinct : ∀ n m, key n = key m → n = m)
    (mirrors : Dict.mapValues entries Opening.topic = openFrom key isOpen topic 0 items)
    (item : α) (opened : isOpen item = true) (opening : Opening)
    (same : opening.topic = topic item) :
    Dict.insert entries (key items.length) opening = entries ++ [(key items.length, opening)] ∧
      Dict.mapValues (Dict.insert entries (key items.length) opening) Opening.topic =
        openFrom key isOpen topic 0 (items ++ [item]) := by
  have absent : Dict.get? entries (key items.length) = none := by
    have outside : Dict.get? (openFrom key isOpen topic 0 items) (key items.length) = none :=
      get?_openFrom_eq_none isOpen topic distinct (Or.inr (Nat.le_of_eq (Nat.zero_add _)))
    rw [← mirrors, Dict.get?_mapValues, Option.map_eq_none_iff] at outside
    exact outside
  have last := Dict.insert_of_get?_eq_none opening absent
  refine ⟨last, ?_⟩
  rw [last, openFrom_append key isOpen topic 0 items opened, ← mirrors, Nat.zero_add, ← same]
  simp [Dict.mapValues]

/-- What is closed is struck out. -/
theorem note_closed (distinct : ∀ n m, key n = key m → n = m)
    (mirrors : Dict.mapValues entries Opening.topic = openFrom key isOpen topic 0 items)
    {number : Nat} {item : α} {change : α → α} (found : items[number]? = some item)
    (closes : isOpen (change item) = false) :
    Dict.mapValues (Dict.erase entries (key number)) Opening.topic =
      openFrom key isOpen topic 0 (items.modify number change) := by
  rw [openFrom_zero_close isOpen topic distinct found closes, ← mirrors, Dict.erase_mapValues]

/-- What is not open is not in the register. -/
theorem get?_of_closed (distinct : ∀ n m, key n = key m → n = m)
    (mirrors : Dict.mapValues entries Opening.topic = openFrom key isOpen topic 0 items)
    {number : Nat} (closed : ∀ item, items[number]? = some item → isOpen item = false) :
    Dict.get? entries (key number) = none := by
  have unlisted := get?_openFrom_of_closed isOpen topic distinct closed
  rw [← mirrors, Dict.get?_mapValues, Option.map_eq_none_iff] at unlisted
  exact unlisted

/-- What is not in the register is not open. -/
theorem closed_of_get?
    (mirrors : Dict.mapValues entries Opening.topic = openFrom key isOpen topic 0 items)
    {number : Nat} (absent : Dict.get? entries (key number) = none) {item : α}
    (found : items[number]? = some item) : isOpen item = false := by
  cases there : isOpen item with
  | false => rfl
  | true =>
      have listed : (key number, topic item) ∈ Dict.mapValues entries Opening.topic := by
        rw [mirrors, mem_openFrom_iff]
        exact ⟨number, item, found, there, by rw [Nat.zero_add]⟩
      obtain ⟨entry, member, same⟩ := List.mem_map.mp listed
      have known := (Dict.mem_keys_iff entries (key number)).mp
        ((Prod.mk.inj same).1 ▸ List.mem_map_of_mem member)
      rw [absent] at known
      cases known

omit [DecidableEq κ] in
/-- What is in the register is open. -/
theorem open_of_mem
    (mirrors : Dict.mapValues entries Opening.topic = openFrom key isOpen topic 0 items)
    {id : κ} {opening : Opening} (member : (id, opening) ∈ entries) :
    ∃ number item, items[number]? = some item ∧ isOpen item = true ∧ id = key number ∧
      opening.topic = topic item := by
  have listed : (id, opening.topic) ∈ Dict.mapValues entries Opening.topic :=
    List.mem_map.mpr ⟨_, member, rfl⟩
  rw [mirrors, mem_openFrom_iff] at listed
  obtain ⟨number, item, found, there, same⟩ := listed
  rw [Nat.zero_add] at same
  exact ⟨number, item, found, there, Prod.mk.inj same⟩

omit [DecidableEq κ] in
theorem count_of_mirrors
    (mirrors : Dict.mapValues entries Opening.topic = openFrom key isOpen topic 0 items)
    (name : String) : (entries.filter fun entry => entry.2.topic = name).length =
      (items.filter fun item => isOpen item && topic item = name).length := by
  rw [← length_openFrom key isOpen topic 0, ← mirrors, Dict.mapValues, List.filter_map,
    List.length_map]
  rfl

end Noting

/-! ## Types -/

namespace TypedBy

variable {topics : Dict String Topic} {openings : List Opening}

/-- Topics that remain keep their types. -/
theorem remain (typed : TypedBy topics openings) {remaining : Dict String Topic}
    {others : List Opening} (fewer : ∀ opening ∈ others, opening ∈ openings)
    (remain : ∀ name after, Dict.get? remaining name = some after →
      ∃ before, Dict.get? topics name = some before ∧ after.typeName = before.typeName) :
    TypedBy remaining others := by
  intro opening member after found
  obtain ⟨before, found, same⟩ := remain _ _ found
  exact same.trans (typed opening (fewer opening member) before found)

/-- A topic that is bound has the type of everything that is open on it. -/
theorem insert {bus : Bus} (typed : TypedBy bus.topics openings) {name typeName : String}
    {topic : Topic} {channels : List Channel} (binds : bus.Binds name typeName topic channels)
    (present : ∀ opening ∈ openings, (Dict.get? bus.topics opening.topic).isSome = true)
    (changed : Topic) (same : changed.typeName = topic.typeName) {others : List Opening}
    (more : ∀ opening ∈ others, opening ∈ openings ∨ opening = ⟨name, typeName⟩) :
    TypedBy (Dict.insert bus.topics name changed) others := by
  intro opening member after found
  have named := same.trans binds.typeName_eq
  rw [Dict.get?_insert] at found
  rcases more opening member with old | rfl
  · split at found
    · rename_i own
      cases found
      have there := present opening old
      subst own
      cases binds with
      | opened absent room silent => simp [absent] at there
      | found found same => exact (same.trans named.symm).symm ▸ typed opening old _ found
    · exact typed opening old _ found
  · rw [if_pos rfl] at found
    cases found
    exact named

end TypedBy

theorem typeName_sent {bus : Bus} {id : PublicationId} {publication : Publication}
    {payload : Bytes} {name : String} {after : Topic}
    (found : Dict.get? (bus.sent id publication payload).topics name = some after) :
    ∃ before, Dict.get? bus.topics name = some before ∧ after.typeName = before.typeName := by
  rw [topics_sent] at found
  obtain ⟨before, found, same⟩ := Option.map_eq_some_iff.mp found
  refine ⟨before, found, ?_⟩
  rw [← same]
  split <;> rfl

/-! ## Every step and every run -/

namespace Register.Mirrors

variable {register : Register} {bus : Bus}

theorem publication (mirrors : register.Mirrors bus) {id : PublicationId} {opening : Opening}
    (member : (id, opening) ∈ register.publications) :
    ∃ publication, bus.publications[id.number]? = some publication ∧
      publication.isOpen = true ∧ opening.topic = publication.topic := by
  obtain ⟨number, publication, found, isOpen, rfl, same⟩ := open_of_mem mirrors.publications member
  exact ⟨publication, found, isOpen, same⟩

theorem subscription (mirrors : register.Mirrors bus) {id : SubscriptionId} {opening : Opening}
    (member : (id, opening) ∈ register.subscriptions) :
    ∃ subscription, bus.subscriptions[id.number]? = some subscription ∧
      subscription.isOpen = true ∧ opening.topic = subscription.topic := by
  obtain ⟨number, subscription, found, isOpen, rfl, same⟩ :=
    open_of_mem mirrors.subscriptions member
  exact ⟨subscription, found, isOpen, same⟩

/-- The topic of everything that is open is in the table. -/
theorem present (mirrors : register.Mirrors bus) (bound : bus.Bound) {opening : Opening}
    (member : opening ∈ register.openings) :
    (Dict.get? bus.topics opening.topic).isSome = true := by
  rcases List.mem_append.mp member with listed | listed
  · obtain ⟨entry, there, rfl⟩ := List.mem_map.mp listed
    obtain ⟨publication, found, isOpen, same⟩ := mirrors.publication there
    obtain ⟨topic, held, _⟩ := bound.publication_topic (List.mem_of_getElem? found) isOpen
    rw [same, held]
    rfl
  · obtain ⟨entry, there, rfl⟩ := List.mem_map.mp listed
    obtain ⟨subscription, found, isOpen, same⟩ := mirrors.subscription there
    obtain ⟨topic, held, _⟩ := bound.subscription_topic (List.mem_of_getElem? found) isOpen
    rw [same, held]
    rfl

theorem fresh (config : BusConfig) : Register.Mirrors {} { config } where
  publications := rfl
  subscriptions := rfl
  typed := fun _ member => nomatch member

/-- What closes nothing and keeps the types keeps the register. -/
theorem keep (mirrors : register.Mirrors bus) {after : Bus}
    (publications : after.publications = bus.publications)
    (subscriptions : after.openSubscriptions = bus.openSubscriptions)
    (topics : ∀ name topic, Dict.get? after.topics name = some topic →
      ∃ before, Dict.get? bus.topics name = some before ∧ topic.typeName = before.typeName) :
    register.Mirrors after where
  publications := by rw [mirrors.publications, openPublications, openPublications, publications]
  subscriptions := by rw [mirrors.subscriptions, subscriptions]
  typed := mirrors.typed.remain (fun _ member => member) topics

theorem step (mirrors : register.Mirrors bus) (orderly : bus.Orderly) (action : Action) :
    (register.note bus action).Mirrors (bus.act action) := by
  have unchanged : ∀ name topic, Dict.get? bus.topics name = some topic →
      ∃ before, Dict.get? bus.topics name = some before ∧ topic.typeName = before.typeName :=
    fun _ topic found => ⟨topic, found, rfl⟩
  have does := bus.does action
  generalize bus.act action = after at does ⊢
  cases does with
  | @advertised name typeName options topic channels isOpen answer binds =>
      obtain ⟨last, publications⟩ := note_opened (fun _ _ => congrArg PublicationId.number)
        mirrors.publications ⟨name, topic.channel, options.latch, true⟩ rfl ⟨name, typeName⟩ rfl
      rw [note, answer]
      refine ⟨publications, mirrors.subscriptions, mirrors.typed.insert binds
        (fun _ => mirrors.present (orderly.bound isOpen))
        { topic with publishers := topic.publishers + 1 } rfl fun opening member => ?_⟩
      simp only [openings, last, List.map_append, List.mem_append, List.map_cons, List.map_nil,
        List.mem_singleton] at member ⊢
      rcases member with (old | new) | old
      · exact Or.inl (Or.inl old)
      · exact Or.inr new
      · exact Or.inl (Or.inr old)
  | notAdvertised refused =>
      rw [note, refused]
      exact mirrors
  | @subscribed name typeName options topic channels isOpen answer binds =>
      obtain ⟨last, subscriptions⟩ := note_opened (fun _ _ => congrArg SubscriptionId.number)
        mirrors.subscriptions ⟨name, topic.channel, topic.latched.map (·.2),
          (channels.getD topic.channel.number (.ofCapacity 0)).sent, true, false⟩ rfl ⟨name, typeName⟩ rfl
      rw [note, answer]
      refine ⟨mirrors.publications, subscriptions, mirrors.typed.insert binds
        (fun _ => mirrors.present (orderly.bound isOpen))
        { topic with subscribers := topic.subscribers + 1 } rfl fun opening member => ?_⟩
      simp only [openings, last, List.map_append, List.mem_append, List.map_cons, List.map_nil,
        List.mem_singleton] at member ⊢
      rcases member with old | old | new
      · exact Or.inl (Or.inl old)
      · exact Or.inl (Or.inr old)
      · exact Or.inr new
  | notSubscribed refused =>
      rw [note, refused]
      exact mirrors
  | published found isOpen =>
      refine mirrors.keep (publications_sent ..) ?_ fun _ _ => typeName_sent
      rw [openSubscriptions, subscriptions_sent]
      rfl
  | @withdrawn id publication found isOpen =>
      have same := withdraw_of_open found isOpen
      have frame := bus.withdraw_frame id
      refine ⟨?_, ?_, mirrors.typed.remain ?_ ?_⟩
      · rw [openPublications, same]
        exact note_closed (fun _ _ => congrArg PublicationId.number) mirrors.publications found rfl
      · rw [openSubscriptions, frame]
        exact mirrors.subscriptions
      · intro opening member
        rcases List.mem_append.mp member with listed | listed
        · obtain ⟨entry, there, rfl⟩ := List.mem_map.mp listed
          exact List.mem_append_left _ (List.mem_map_of_mem (List.mem_filter.mp there).1)
        · exact List.mem_append_right _ listed
      · intro name after found'
        obtain ⟨before, there, remains⟩ := remains_withdraw found isOpen found'
        exact ⟨before, there, remains.typeName⟩
  | @notWithdrawn id closed =>
      have absent := get?_of_closed (fun _ _ => congrArg PublicationId.number)
        mirrors.publications closed
      rw [note, Dict.erase_of_get?_eq_none absent]
      exact mirrors
  | @cancelled id subscription found isOpen =>
      have same := cancel_of_open found isOpen
      have frame := bus.cancel_frame id
      refine ⟨?_, ?_, mirrors.typed.remain ?_ ?_⟩
      · rw [openPublications, frame]
        exact mirrors.publications
      · rw [openSubscriptions, same]
        exact note_closed (fun _ _ => congrArg SubscriptionId.number) mirrors.subscriptions found
          rfl
      · intro opening member
        rcases List.mem_append.mp member with listed | listed
        · exact List.mem_append_left _ listed
        · obtain ⟨entry, there, rfl⟩ := List.mem_map.mp listed
          exact List.mem_append_right _ (List.mem_map_of_mem (List.mem_filter.mp there).1)
      · intro name after found'
        obtain ⟨before, there, remains⟩ := remains_cancel found isOpen found'
        exact ⟨before, there, remains.typeName⟩
  | @notCancelled id closed =>
      have absent := get?_of_closed (fun _ _ => congrArg SubscriptionId.number)
        mirrors.subscriptions closed
      rw [note, Dict.erase_of_get?_eq_none absent]
      exact mirrors
  | served found attends ready served =>
      have moves := moves_begun ready
      exact mirrors.keep rfl (openFrom_modify _ _ _ _ found moves.isOpen moves.topic) unchanged
  | paused found =>
      exact mirrors.keep rfl (openFrom_modify _ _ _ _ found rfl rfl) unchanged
  | servedAll => exact mirrors.keep rfl bus.openSubscriptions_arrivals unchanged
  | ended => exact mirrors.keep rfl rfl fun _ _ found => nomatch found
  | _ => exact mirrors.keep rfl rfl unchanged

end Register.Mirrors

end Bus

end TopicBridge
