import GraphcastSdk.Account
import GraphcastSdk.Lib.Run
import GraphcastSdk.WakuHandling

/-!
# The agent's shared ids and topics (`graphcast_agent/mod.rs`)

`seen_msg_ids` and `content_topics` are shared by the Waku event callback (`register_handler`),
`send_message` and `update_content_topics`. The machine takes one event for each time one of them
holds a lock:

* `handle_signal` holds the ids from its lookup to its return, so no send and no other signal
  falls between its two locks. Only topic updates can, and its event lists them (`updates`). The
  node publishes under neither lock; a publication between the two counts as before the signal.
* `send_message` chooses a topic, builds the message and has the node publish it (`publish`, with
  the id the node returns), and later inserts that id (`record`). A send that fails before the
  node returns an id touches nothing here.
* `match_content_topic_identifier` finds the topic that `send_message` sends on.
* `register_handler` forwards what `handle_signal` accepts to the radio's channel.

`signals_history` gives the verdict on each signal, the ids forwarded and the ids seen by what came
before in the run. `AgentLocks` takes the locks of `handle_signal` one by one and refines this
machine.
-/

namespace GraphcastSdk

/-- `ethers`' `WalletError`, as text. -/
abbrev WalletError := String

/-- `ConfigError`. -/
inductive ConfigError where
  | validateInput (text : String)
  | other (e : String)
  deriving Repr, DecidableEq

/-- `GraphcastAgentError`. -/
inductive GraphcastAgentError where
  | queryResponseError (e : QueryError)
  | configValidation (e : ConfigError)
  | ethereumWalletError (e : WalletError)
  | urlParseError (e : String)
  | wakuNodeError (e : WakuHandlingError)
  | messageError (e : MessageError)
  | wakuPortError
  | convertMultiaddrError
  | other (e : String)
  deriving Repr, DecidableEq

structure Agent where
  radioName : String
  seenMsgIds : Finset String
  contentTopics : List WakuContentTopic
  /-- The ids of the messages that the node published for this agent. -/
  published : List String
  /-- Of these, the ones whose send has not inserted its id yet. -/
  sending : List String
  /-- What went to the radio, with the message ids. -/
  channel : List (String × WakuMessage)
  deriving DecidableEq

namespace Agent

def init (radioName : String) (seenMsgIds : Finset String)
    (contentTopics : List WakuContentTopic) : Agent :=
  ⟨radioName, seenMsgIds, contentTopics, [], [], []⟩

/-- `update_content_topics`. -/
def updateContentTopics (self : Agent) (subtopics : List String) : Agent :=
  { self with contentTopics := buildContentTopics self.radioName "0" subtopics }

/-- `match_content_topic_identifier`. -/
def matchContentTopicIdentifier (self : Agent) (identifier : String) :
    Outcome GraphcastAgentError WakuContentTopic :=
  Outcome.okOr (self.contentTopics.find? fun x => x.contentTopicName == identifier)
    (.other s!"Did not match a content topic with identifier: {identifier}")

/-- A number of updates, in order. -/
def updateAll (self : Agent) (updates : List (List String)) : Agent :=
  updates.foldl updateContentTopics self

inductive Event where
  /-- `handle_signal` on `signal`; the topics are updated between its two locks. -/
  | signal (signal : Signal) (updates : List (List String))
  /-- The node publishes a message of `send_message` and returns its id. -/
  | publish (id : String)
  /-- That call of `send_message` inserts the id. -/
  | record (id : String)
  /-- `update_content_topics`. -/
  | update (subtopics : List String)
  deriving DecidableEq

/-- What `handle_signal` returns for the signal. -/
def verdict (s : Agent) (signal : Signal) (updates : List (List String)) :
    Outcome WakuHandlingError WakuMessage :=
  (handleSignal signal s.seenMsgIds (s.updateAll updates).contentTopics).1

/-- What `register_handler` sends to the radio for a verdict on `signal`. -/
def forwarded (signal : Signal) (result : Outcome WakuHandlingError WakuMessage) :
    List (String × WakuMessage) :=
  match signal.event, result with
  | .wakuMessage id _, .ok m => [(id, m)]
  | _, _ => []

def step (s : Agent) : Event → Option Agent
  | .signal signal updates =>
    some { s.updateAll updates with
      seenMsgIds := (handleSignal signal s.seenMsgIds (s.updateAll updates).contentTopics).2
      channel := s.channel ++ forwarded signal (s.verdict signal updates) }
  | .publish id => some { s with published := s.published ++ [id], sending := s.sending ++ [id] }
  | .record id =>
    if id ∈ s.sending then
      some { s with seenMsgIds := insert id s.seenMsgIds, sending := s.sending.erase id }
    else none
  | .update subtopics => some (s.updateContentTopics subtopics)

/-! ## What a step does -/

variable {s s' : Agent}

/-- Updates change the topics alone. -/
theorem updateAll_eq (s : Agent) (updates : List (List String)) :
    ∃ topics, s.updateAll updates = { s with contentTopics := topics } := by
  induction updates generalizing s with
  | nil => exact ⟨s.contentTopics, rfl⟩
  | cons subtopics updates ih =>
    obtain ⟨topics, h⟩ := ih (s.updateContentTopics subtopics)
    exact ⟨topics, h⟩

/-- The event is a signal that carries the id. -/
def Event.Carries (e : Event) (id : String) : Prop :=
  ∃ signal updates wakuMessage, e = .signal signal updates ∧
    signal.event = .wakuMessage id wakuMessage

/-- **The ids seen grow by the id of the signal, or by the id recorded.** -/
theorem mem_seen_step {e : Event} (h : step s e = some s') (id : String) :
    id ∈ s'.seenMsgIds ↔ id ∈ s.seenMsgIds ∨ e.Carries id ∨ e = .record id := by
  cases e with
  | signal signal updates =>
    obtain rfl := Option.some.inj h
    show id ∈ (handleSignal signal s.seenMsgIds (s.updateAll updates).contentTopics).2 ↔ _
    rw [seen_handleSignal]
    constructor
    · rintro (h | ⟨m, he⟩)
      · exact Or.inl h
      · exact Or.inr (Or.inl ⟨signal, updates, m, rfl, he⟩)
    · rintro (h | ⟨signal', updates', m, he, hm⟩ | he)
      · exact Or.inl h
      · obtain ⟨rfl, rfl⟩ := Event.signal.inj he
        exact Or.inr ⟨m, hm⟩
      · exact absurd he (by simp)
  | publish i =>
    obtain rfl := Option.some.inj h
    simp [Event.Carries]
  | record i =>
    simp only [step] at h
    split at h
    · obtain rfl := Option.some.inj h
      simp only [Finset.mem_insert, Event.Carries, Event.record.injEq]
      constructor
      · rintro (rfl | h)
        · exact Or.inr (Or.inr rfl)
        · exact Or.inl h
      · rintro (h | ⟨_, _, _, he, -⟩ | rfl)
        · exact Or.inr h
        · exact absurd he (by simp)
        · exact Or.inl rfl
    · exact absurd h (by simp)
  | update subtopics =>
    obtain rfl := Option.some.inj h
    simp [Event.Carries, updateContentTopics]

/-- The ids seen after a run, by its history. -/
theorem mem_seen_run {es : List Event} (id : String) : ∀ {s s' : Agent},
    Run.run step s es = some s' → (id ∈ s'.seenMsgIds ↔
      id ∈ s.seenMsgIds ∨ (∃ e ∈ es, e.Carries id) ∨ .record id ∈ es) := by
  induction es with
  | nil =>
    intro s s' h
    obtain rfl := Option.some.inj h
    simp
  | cons e es ih =>
    intro s s' h
    obtain ⟨s₁, h₁, h₂⟩ := Run.run_cons h
    rw [ih h₂, mem_seen_step h₁, List.mem_cons, eq_comm (a := e)]
    simp only [List.mem_cons, exists_eq_or_imp]
    constructor
    · rintro ((h | h | h) | h | h)
      · exact Or.inl h
      · exact Or.inr (Or.inl (Or.inl h))
      · exact Or.inr (Or.inr (Or.inl h))
      · exact Or.inr (Or.inl (Or.inr h))
      · exact Or.inr (Or.inr (Or.inr h))
    · rintro (h | (h | h) | h | h)
      · exact Or.inl (Or.inl h)
      · exact Or.inl (Or.inr (Or.inl h))
      · exact Or.inr (Or.inl h)
      · exact Or.inl (Or.inr (Or.inr h))
      · exact Or.inr (Or.inr h)

/-- An accepted signal has an id not seen before and a topic in force. -/
theorem verdict_eq_ok {signal : Signal} {updates : List (List String)} {m : WakuMessage} :
    s.verdict signal updates = .ok m ↔ ∃ id, signal.event = .wakuMessage id m ∧
      id ∉ s.seenMsgIds ∧ ((s.updateAll updates).contentTopics = [] ∨
        m.contentTopic ∈ (s.updateAll updates).contentTopics) :=
  handleSignal_eq_ok

/-- A signal that is not a message leaves the agent as the updates make it. -/
theorem step_signal_of_not_message {signal : Signal}
    (h : ∀ id m, signal.event ≠ .wakuMessage id m) (updates : List (List String)) :
    step s (.signal signal updates) = some (s.updateAll updates) := by
  obtain ⟨topics, ht⟩ := updateAll_eq s updates
  have hf : forwarded signal (s.verdict signal updates) = [] := by
    unfold forwarded
    split
    · rename_i id m' m he _
      exact absurd he (h id m')
    · rfl
  simp only [step, (handleSignal_of_not_message h).2, hf, ht, List.append_nil]

/-! ## What was forwarded -/

/-- The ids in the channel are distinct, and have all been seen. -/
structure Inv (s : Agent) : Prop where
  distinct : (s.channel.map Prod.fst).Nodup
  seen : ∀ id ∈ s.channel.map Prod.fst, id ∈ s.seenMsgIds

theorem forwarded_cases (signal : Signal) (result : Outcome WakuHandlingError WakuMessage) :
    forwarded signal result = [] ∨ ∃ id m' m, signal.event = .wakuMessage id m' ∧
      result = .ok m ∧ forwarded signal result = [(id, m)] := by
  unfold forwarded
  split
  · rename_i id m' m he
    exact Or.inr ⟨id, m', m, he, rfl, rfl⟩
  · exact Or.inl rfl

theorem inv_step {e : Event} (hi : Inv s) (h : step s e = some s') : Inv s' := by
  have hmono : ∀ id, id ∈ s.seenMsgIds → id ∈ s'.seenMsgIds := fun id hid =>
    (mem_seen_step h id).mpr (Or.inl hid)
  cases e with
  | signal signal updates =>
    have hseen := mem_seen_step h
    obtain rfl := Option.some.inj h
    rcases forwarded_cases signal (s.verdict signal updates) with hf | ⟨id, m', m, he, hok, hf⟩
    · refine ⟨?_, fun i hid => ?_⟩
      · simp only [hf, List.append_nil]
        exact hi.distinct
      · simp only [hf, List.append_nil] at hid
        exact hmono i (hi.seen i hid)
    · obtain ⟨id', he', hid, -⟩ := verdict_eq_ok.mp hok
      obtain ⟨rfl, rfl⟩ := WakuEvent.wakuMessage.inj (he.symm.trans he')
      refine ⟨?_, fun i hmem => ?_⟩
      · simp only [hf, List.map_append, List.map_cons, List.map_nil]
        refine List.nodup_append.mpr ⟨hi.distinct, List.nodup_singleton id, fun i hmem j hj => ?_⟩
        obtain rfl := List.mem_singleton.mp hj
        rintro rfl
        exact hid (hi.seen i hmem)
      · simp only [hf, List.map_append, List.map_cons, List.map_nil] at hmem
        rcases List.mem_append.mp hmem with hmem | hmem
        · exact hmono i (hi.seen i hmem)
        · obtain rfl := List.mem_singleton.mp hmem
          exact (hseen i).mpr (Or.inr (Or.inl ⟨signal, updates, m', rfl, he⟩))
  | publish i =>
    obtain rfl := Option.some.inj h
    exact ⟨hi.distinct, hi.seen⟩
  | record i =>
    simp only [step] at h
    split at h
    · obtain rfl := Option.some.inj h
      exact ⟨hi.distinct, fun id hid => hmono id (hi.seen id hid)⟩
    · exact absurd h (by simp)
  | update subtopics =>
    obtain rfl := Option.some.inj h
    exact ⟨hi.distinct, hi.seen⟩

theorem inv_init {radioName : String} {seenMsgIds : Finset String}
    {contentTopics : List WakuContentTopic} : Inv (init radioName seenMsgIds contentTopics) where
  distinct := List.nodup_nil
  seen id h := absurd h (by simp [init])

/-- **Every verdict, everything forwarded and every id seen, by the history of the run.** -/
theorem signals_history {radioName : String} {seenMsgIds : Finset String}
    {contentTopics : List WakuContentTopic} {es : List Event}
    (hr : Run.run step (init radioName seenMsgIds contentTopics) es = some s) :
    (∀ es₁ signal updates es₂ s₁ m, es = es₁ ++ .signal signal updates :: es₂ →
      Run.run step (init radioName seenMsgIds contentTopics) es₁ = some s₁ →
        (s₁.verdict signal updates = .ok m ↔ ∃ id, signal.event = .wakuMessage id m ∧
          id ∉ seenMsgIds ∧ (∀ e ∈ es₁, ¬ e.Carries id) ∧ .record id ∉ es₁ ∧
          ((s₁.updateAll updates).contentTopics = [] ∨
            m.contentTopic ∈ (s₁.updateAll updates).contentTopics))) ∧
    (s.channel.map Prod.fst).Nodup ∧
    (∀ id, id ∈ s.seenMsgIds ↔
      id ∈ seenMsgIds ∨ (∃ e ∈ es, e.Carries id) ∨ .record id ∈ es) ∧
    ∀ (s₁ : Agent) signal updates, (∀ id m, signal.event ≠ .wakuMessage id m) →
      step s₁ (.signal signal updates) = some (s₁.updateAll updates) := by
  refine ⟨?_, (Run.run_invariant (fun _ _ _ hi h => inv_step hi h) inv_init hr).distinct,
    fun id => mem_seen_run id hr, fun s₁ signal updates h => step_signal_of_not_message h updates⟩
  intro es₁ signal updates es₂ s₁ m _ h₁
  rw [verdict_eq_ok]
  refine exists_congr fun id => and_congr_right fun _ => ?_
  rw [mem_seen_run id h₁]
  simp only [not_or, not_exists, not_and, and_assoc]
  rfl

/-- A message on the radio's topic `table`. -/
def tableMessage : WakuMessage where
  payload := []
  contentTopic := ⟨"ping-pong", "0", "table", .proto⟩
  version := 2
  timestamp := 1688744240
  metadata := []
  ephemeral := true

/-- The event that delivers it. -/
def tableSignal : Signal := ⟨.wakuMessage "0x01" tableMessage, ""⟩

theorem signals_history_table :
    ∃ s, Run.run step (init "ping-pong" ∅ (buildContentTopics "ping-pong" "0" ["table"]))
        [.signal tableSignal [], .signal tableSignal []] = some s ∧
      (s.channel.map Prod.fst).Nodup ∧ "0x01" ∈ s.seenMsgIds := by
  have hrun : (Run.run step (init "ping-pong" ∅ (buildContentTopics "ping-pong" "0" ["table"]))
      [.signal tableSignal [], .signal tableSignal []]).isSome = true := by decide
  obtain ⟨s, hs⟩ := Option.isSome_iff_exists.mp hrun
  obtain ⟨-, hdistinct, hseen, -⟩ := signals_history hs
  refine ⟨s, hs, hdistinct, (hseen "0x01").mpr (Or.inr (Or.inl ?_))⟩
  exact ⟨_, List.mem_cons_self, tableSignal, [], tableMessage, rfl, rfl⟩

end Agent

end GraphcastSdk
