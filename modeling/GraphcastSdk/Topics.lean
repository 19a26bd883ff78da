import GraphcastSdk.Agent

/-!
# Content topics between two radios

The sender finds its topic by name (`match_content_topic_identifier`); the receiver compares whole
topics (`match_content_topic`). Both hold the topics that the last `update_content_topics` built,
whatever else happened in the run.

* `contentTopics_run`: the topics in force after a run are those of the latest subtopics.
* `topics_agree`: an identifier is found at the sender iff it is among its latest subtopics, and a
  message on the topic found is forwarded iff the receiver runs the same radio and has the
  identifier among its own, or has no subtopics at all.
-/

namespace GraphcastSdk

namespace Agent

/-! ## The subtopics in force -/

/-- The subtopics after a number of updates. -/
def latest (subtopics : List String) (updates : List (List String)) : List String :=
  updates.foldl (fun _ new => new) subtopics

/-- The subtopics after a run: those of its last update, between two locks of a signal or not. -/
def subtopicsAfter : List String → List Event → List String
  | subtopics, [] => subtopics
  | subtopics, .signal _ updates :: es => subtopicsAfter (latest subtopics updates) es
  | subtopics, .publish _ :: es => subtopicsAfter subtopics es
  | subtopics, .record _ :: es => subtopicsAfter subtopics es
  | _, .update new :: es => subtopicsAfter new es

/-- The agent has the topics of `subtopics` for its radio. -/
def Holds (s : Agent) (radioName : String) (subtopics : List String) : Prop :=
  s.radioName = radioName ∧ s.contentTopics = buildContentTopics radioName "0" subtopics

variable {s s' : Agent} {radioName : String}

theorem holds_updateAll : ∀ {updates : List (List String)} {s : Agent} {subtopics : List String},
    s.Holds radioName subtopics → (s.updateAll updates).Holds radioName (latest subtopics updates)
  | [], _, _, h => h
  | new :: updates, s, _, h => by
    have hnew : (s.updateContentTopics new).Holds radioName new :=
      ⟨h.1, by simp only [updateContentTopics, h.1]⟩
    have hrest : ((s.updateContentTopics new).updateAll updates).Holds radioName
        (latest new updates) := holds_updateAll hnew
    exact hrest

theorem holds_step {e : Event} {subtopics : List String} (h : s.Holds radioName subtopics)
    (hs : step s e = some s') : s'.Holds radioName (subtopicsAfter subtopics [e]) := by
  cases e with
  | signal signal updates =>
    obtain rfl := Option.some.inj hs
    exact holds_updateAll h
  | publish id =>
    obtain rfl := Option.some.inj hs
    exact h
  | record id =>
    simp only [step] at hs
    split at hs
    · obtain rfl := Option.some.inj hs
      exact h
    · exact absurd hs (by simp)
  | update new =>
    obtain rfl := Option.some.inj hs
    exact ⟨h.1, by simp only [updateContentTopics, h.1]; rfl⟩

theorem subtopicsAfter_cons (subtopics : List String) (e : Event) (es : List Event) :
    subtopicsAfter subtopics (e :: es) = subtopicsAfter (subtopicsAfter subtopics [e]) es := by
  cases e <;> rfl

theorem holds_run : ∀ {es : List Event} {s : Agent} {subtopics : List String},
    s.Holds radioName subtopics → Run.run step s es = some s' →
      s'.Holds radioName (subtopicsAfter subtopics es)
  | [], s, _, h, hr => Option.some.inj hr ▸ h
  | e :: es, s, subtopics, h, hr => by
    obtain ⟨s₁, h₁, h₂⟩ := Run.run_cons hr
    rw [subtopicsAfter_cons]
    exact holds_run (holds_step h h₁) h₂

/-- An agent of a radio at its start, with the ids it has seen. -/
def start (radioName : String) (seenMsgIds : Finset String) (subtopics : List String) : Agent :=
  init radioName seenMsgIds (buildContentTopics radioName "0" subtopics)

/-- **The topics in force are those of the latest subtopics.** -/
theorem contentTopics_run {seenMsgIds : Finset String} {subtopics : List String}
    {es : List Event} (hr : Run.run step (start radioName seenMsgIds subtopics) es = some s) :
    s.Holds radioName (subtopicsAfter subtopics es) :=
  holds_run ⟨rfl, rfl⟩ hr

/-! ## The two sides -/

theorem mem_buildContentTopics {subtopics : List String} {topic : WakuContentTopic} :
    topic ∈ buildContentTopics radioName "0" subtopics ↔
      ∃ name ∈ subtopics, topic = ⟨radioName, "0", name, .proto⟩ := by
  unfold buildContentTopics
  rw [List.mem_map]
  exact exists_congr fun name => and_congr_right fun _ => eq_comm

/-- The sender finds the topic of a subtopic, the first one in case of repetition. -/
theorem matchContentTopicIdentifier_eq_ok {subtopics : List String} {identifier : String}
    {topic : WakuContentTopic} (h : s.Holds radioName subtopics) :
    s.matchContentTopicIdentifier identifier = .ok topic ↔
      identifier ∈ subtopics ∧ topic = ⟨radioName, "0", identifier, .proto⟩ := by
  unfold matchContentTopicIdentifier
  rw [Outcome.okOr_eq_ok, h.2]
  constructor
  · intro hf
    obtain ⟨name, hname, rfl⟩ := mem_buildContentTopics.mp (List.mem_of_find?_eq_some hf)
    obtain rfl : name = identifier := by simpa using List.find?_some hf
    exact ⟨hname, rfl⟩
  · rintro ⟨hmem, rfl⟩
    cases hf : (buildContentTopics radioName "0" subtopics).find?
        (fun x => x.contentTopicName == identifier) with
    | none =>
      have hno := List.find?_eq_none.mp hf _ (mem_buildContentTopics.mpr ⟨identifier, hmem, rfl⟩)
      exact absurd (beq_self_eq_true identifier) hno
    | some x =>
      obtain ⟨name, -, rfl⟩ := mem_buildContentTopics.mp (List.mem_of_find?_eq_some hf)
      obtain rfl : name = identifier := by simpa using List.find?_some hf
      rfl

/-- The receiver forwards a fresh message on a topic of `radioName` iff it runs that radio and has
the subtopic, or has none at all. -/
theorem forwarded_iff {receiverName identifier id text : String} {subtopics : List String}
    {updates : List (List String)} {m : WakuMessage} (hi : Inv s)
    (h : s.Holds receiverName subtopics)
    (hm : m.contentTopic = ⟨radioName, "0", identifier, .proto⟩) (hid : id ∉ s.seenMsgIds)
    (hs : step s (.signal ⟨.wakuMessage id m, text⟩ updates) = some s') :
    (id, m) ∈ s'.channel ↔ radioName = receiverName ∧ identifier ∈ latest subtopics updates ∨
      latest subtopics updates = [] := by
  have hnew : (id, m) ∉ s.channel := fun hc =>
    hid (hi.seen id (List.mem_map_of_mem (f := Prod.fst) hc))
  have hverdict : s.verdict ⟨.wakuMessage id m, text⟩ updates = .ok m ↔
      radioName = receiverName ∧ identifier ∈ latest subtopics updates ∨
        latest subtopics updates = [] := by
    rw [verdict_eq_ok, (holds_updateAll h).2, hm, mem_buildContentTopics]
    constructor
    · rintro ⟨_, -, -, hnil | ⟨name, hname, htopic⟩⟩
      · exact Or.inr (List.map_eq_nil_iff.mp hnil)
      · obtain ⟨rfl, -, rfl, -⟩ := WakuContentTopic.mk.inj htopic
        exact Or.inl ⟨rfl, hname⟩
    · rintro (⟨rfl, hmem⟩ | hnil)
      · exact ⟨id, rfl, hid, Or.inr ⟨identifier, hmem, rfl⟩⟩
      · exact ⟨id, rfl, hid, Or.inl (by rw [hnil]; rfl)⟩
  rw [← hverdict]
  obtain rfl := Option.some.inj hs
  show (id, m) ∈ s.channel ++ forwarded _ _ ↔ _
  rw [List.mem_append, or_iff_right hnew]
  unfold forwarded
  cases hv : s.verdict ⟨.wakuMessage id m, text⟩ updates with
  | ok m' => simp [eq_comm]
  | err e => simp
  | panic p => simp

/-- **Topic agreement.** After any runs of a sender and a receiver, the sender finds a topic for
the identifiers among its latest subtopics; and a message on that topic that reaches the receiver
under a fresh id is forwarded, within one radio, iff the receiver's latest subtopics have the
identifier or are none, and between two radios only if they are none. -/
theorem topics_agree {senderName receiverName : String} {seen₁ seen₂ : Finset String}
    {subtopics₁ subtopics₂ : List String} {es₁ es₂ : List Event} {sender receiver : Agent}
    (h₁ : Run.run step (start senderName seen₁ subtopics₁) es₁ = some sender)
    (h₂ : Run.run step (start receiverName seen₂ subtopics₂) es₂ = some receiver)
    (identifier : String) :
    ((∃ topic, sender.matchContentTopicIdentifier identifier = .ok topic) ↔
      identifier ∈ subtopicsAfter subtopics₁ es₁) ∧
    ∀ (m : WakuMessage) (id text : String) (updates : List (List String)) (receiver' : Agent),
      sender.matchContentTopicIdentifier identifier = .ok m.contentTopic →
        id ∉ receiver.seenMsgIds →
          step receiver (.signal ⟨.wakuMessage id m, text⟩ updates) = some receiver' →
            (senderName = receiverName → ((id, m) ∈ receiver'.channel ↔
              identifier ∈ latest (subtopicsAfter subtopics₂ es₂) updates ∨
                latest (subtopicsAfter subtopics₂ es₂) updates = [])) ∧
            (senderName ≠ receiverName → (id, m) ∈ receiver'.channel →
              latest (subtopicsAfter subtopics₂ es₂) updates = []) := by
  have hsender := contentTopics_run h₁
  have hinv : Inv receiver := Run.run_invariant (fun _ _ _ hi h => inv_step hi h) inv_init h₂
  refine ⟨?_, fun m id text updates receiver' hm hid hs => ?_⟩
  · constructor
    · rintro ⟨topic, h⟩
      exact ((matchContentTopicIdentifier_eq_ok hsender).mp h).1
    · intro h
      exact ⟨_, (matchContentTopicIdentifier_eq_ok hsender).mpr ⟨h, rfl⟩⟩
  · have htopic := ((matchContentTopicIdentifier_eq_ok hsender).mp hm).2
    have hforwarded := forwarded_iff hinv (contentTopics_run h₂) htopic hid hs
    constructor
    · intro hname
      rw [hforwarded]
      simp only [hname, true_and]
    · intro hname hmem
      rcases hforwarded.mp hmem with ⟨heq, -⟩ | hnil
      · exact absurd heq hname
      · exact hnil

/-- Two ping-pong radios; the receiver takes up `table` after the sender has. -/
theorem topics_agree_table :
    ∃ receiver', step ((start "ping-pong" ∅ ["chess"]).updateContentTopics ["chess", "table"])
        (.signal tableSignal []) = some receiver' ∧ ("0x01", tableMessage) ∈ receiver'.channel := by
  have hsender : Run.run step (start "ping-pong" ∅ ["table"]) [] =
      some (start "ping-pong" ∅ ["table"]) := rfl
  have hreceiver : Run.run step (start "ping-pong" ∅ ["chess"]) [.update ["chess", "table"]] =
      some ((start "ping-pong" ∅ ["chess"]).updateContentTopics ["chess", "table"]) := rfl
  obtain ⟨-, hforward⟩ := topics_agree hsender hreceiver "table"
  refine ⟨_, rfl, ((hforward tableMessage "0x01" "" [] _ (by decide) (by decide) rfl).1 rfl).mpr
    (Or.inl (by decide))⟩

end Agent

end GraphcastSdk
