import GraphcastSdk.Agent

/-!
# Own messages

`handle_signal` turns away the messages "sent by self" by their id, which `send_message` inserts
only after the node has published the message. Until then the node may deliver it, and the
callback takes it for a message of another sender (`own_accepted`).

* `own_rejected_iff`: in any interleaving of sends, signals and topic updates, every own message is
  turned away iff none is delivered, on a topic in force, before its id is inserted (`Settled`).
-/

namespace GraphcastSdk

namespace Agent

/-- A signal that carries the id of a send still in progress comes for an id seen before, or on no
topic in force. -/
def Settled (s : Agent) (e : Event) : Prop :=
  ∀ signal updates id m, e = .signal signal updates → signal.event = .wakuMessage id m →
    id ∈ s.sending → id ∈ s.seenMsgIds ∨
      matchContentTopic (s.updateAll updates).contentTopics m.contentTopic = false

/-- No signal of the run with the id of a message published before it is accepted. -/
def OwnRejected (start : Agent) (es : List Event) : Prop :=
  ∀ es₁ signal updates es₂ s id m, es = es₁ ++ .signal signal updates :: es₂ →
    Run.run step start es₁ = some s → signal.event = .wakuMessage id m → id ∈ s.published →
      (s.verdict signal updates).isOk = false

variable {s s' : Agent}

/-- Published messages are the ones being sent and some whose ids have been inserted. -/
structure Sends (s : Agent) : Prop where
  published : ∀ id ∈ s.published, id ∈ s.sending ∨ id ∈ s.seenMsgIds
  sending : ∀ id ∈ s.sending, id ∈ s.published

theorem sends_init {radioName : String} {seenMsgIds : Finset String}
    {contentTopics : List WakuContentTopic} : Sends (init radioName seenMsgIds contentTopics) where
  published id h := absurd h (by simp [init])
  sending id h := absurd h (by simp [init])

theorem sends_step {e : Event} (hi : Sends s) (h : step s e = some s') : Sends s' := by
  have hmono : ∀ id, id ∈ s.seenMsgIds → id ∈ s'.seenMsgIds := fun id hid =>
    (mem_seen_step h id).mpr (Or.inl hid)
  cases e with
  | signal signal updates =>
    obtain ⟨topics, ht⟩ := updateAll_eq s updates
    obtain rfl := Option.some.inj h
    simp only [ht] at hmono ⊢
    exact ⟨fun id hid => (hi.published id hid).imp_right (hmono id), hi.sending⟩
  | publish i =>
    obtain rfl := Option.some.inj h
    refine ⟨fun id hid => ?_, fun id hid => ?_⟩
    · rcases List.mem_append.mp hid with hid | hid
      · exact (hi.published id hid).imp_left (List.mem_append_left _)
      · exact Or.inl (List.mem_append_right _ hid)
    · rcases List.mem_append.mp hid with hid | hid
      · exact List.mem_append_left _ (hi.sending id hid)
      · exact List.mem_append_right _ hid
  | record i =>
    simp only [step] at h
    split at h
    · obtain rfl := Option.some.inj h
      refine ⟨fun id hid => ?_, fun id hid => hi.sending id (List.mem_of_mem_erase hid)⟩
      by_cases heq : id = i
      · subst heq
        exact Or.inr (Finset.mem_insert_self id s.seenMsgIds)
      · rcases hi.published id hid with hs | hs
        · exact Or.inl ((List.mem_erase_of_ne heq).mpr hs)
        · exact Or.inr (hmono id hs)
    · exact absurd h (by simp)
  | update subtopics =>
    obtain rfl := Option.some.inj h
    exact ⟨hi.published, hi.sending⟩

/-- A settled signal with the id of an own message is turned away. -/
theorem rejected_of_settled {signal : Signal} {updates : List (List String)} {id : String}
    {m : WakuMessage} (hi : Sends s) (hc : Settled s (.signal signal updates))
    (he : signal.event = .wakuMessage id m) (hid : id ∈ s.published) :
    (s.verdict signal updates).isOk = false := by
  rw [← Bool.not_eq_true, Outcome.isOk_iff]
  rintro ⟨m', hok⟩
  obtain ⟨id', he', hnew, htopic⟩ := verdict_eq_ok.mp hok
  obtain ⟨rfl, rfl⟩ := WakuEvent.wakuMessage.inj (he.symm.trans he')
  rcases hi.published id hid with hs | hs
  · rcases hc signal updates id m rfl he hs with hseen | hmatch
    · exact hnew hseen
    · rw [matchContentTopic_iff.mpr htopic] at hmatch
      exact absurd hmatch (by simp)
  · exact hnew hs

/-- A signal that turns away an own message is settled. -/
theorem settled_of_rejected {signal : Signal} {updates : List (List String)}
    (h : ∀ id m, signal.event = .wakuMessage id m → id ∈ s.sending →
      (s.verdict signal updates).isOk = false) : Settled s (.signal signal updates) := by
  intro signal' updates' id m hev he hs
  obtain ⟨rfl, rfl⟩ := Event.signal.inj hev
  by_cases hseen : id ∈ s.seenMsgIds
  · exact Or.inl hseen
  · refine Or.inr (Bool.eq_false_iff.mpr fun hmatch => ?_)
    have hok := verdict_eq_ok.mpr ⟨id, he, hseen, matchContentTopic_iff.mp hmatch⟩
    have := h id m he hs
    rw [Outcome.isOk_iff.mpr ⟨m, hok⟩] at this
    exact absurd this (by simp)

/-- **Own messages are turned away, exactly as long as none is delivered before its id is
inserted.** -/
theorem own_rejected_iff {radioName : String} {seenMsgIds : Finset String}
    {contentTopics : List WakuContentTopic} {es : List Event}
    (hr : Run.run step (init radioName seenMsgIds contentTopics) es = some s) :
    OwnRejected (init radioName seenMsgIds contentTopics) es ↔
      Run.AlongRun step Settled (init radioName seenMsgIds contentTopics) es := by
  have hsends : ∀ {es₁ : List Event} {s₁ : Agent},
      Run.run step (init radioName seenMsgIds contentTopics) es₁ = some s₁ → Sends s₁ :=
    fun h₁ => Run.run_invariant (fun _ _ _ hi h => sends_step hi h) sends_init h₁
  constructor
  · intro hown
    refine Run.alongRun_of_split hr fun es₁ e es₂ s₁ s₂ hes h₁ _ _ => ?_
    cases e with
    | signal signal updates =>
      exact settled_of_rejected fun id m he hs =>
        hown es₁ signal updates es₂ s₁ id m hes h₁ he ((hsends h₁).sending id hs)
    | publish i => exact fun _ _ _ _ he => absurd he (by simp)
    | record i => exact fun _ _ _ _ he => absurd he (by simp)
    | update subtopics => exact fun _ _ _ _ he => absurd he (by simp)
  · intro hc es₁ signal updates es₂ s₁ id m hes h₁ he hid
    rw [hes] at hc
    exact rejected_of_settled (hsends h₁) (hc.at_split h₁) he hid

/-- The node delivers a message between its publication and the insertion of its id. -/
def deliveredEarly : List Event := [.publish "0x01", .signal tableSignal [], .record "0x01"]

/-- An own message that reaches the radio. -/
theorem own_accepted :
    (∃ s, Run.run step (init "ping-pong" ∅ (buildContentTopics "ping-pong" "0" ["table"]))
        deliveredEarly = some s ∧ s.channel = [("0x01", tableMessage)]) ∧
      ¬ OwnRejected (init "ping-pong" ∅ (buildContentTopics "ping-pong" "0" ["table"]))
        deliveredEarly := by
  constructor
  · exact ⟨_, rfl, by decide⟩
  · intro h
    have := h [.publish "0x01"] tableSignal [] [.record "0x01"] _ "0x01" tableMessage rfl rfl rfl
      (by decide)
    exact absurd this (by decide)

/-- Delivered after its id is inserted, it is turned away. -/
theorem own_rejected_iff_table :
    ∃ s, Run.run step (init "ping-pong" ∅ (buildContentTopics "ping-pong" "0" ["table"]))
        [.publish "0x01", .record "0x01", .signal tableSignal []] = some s ∧
      OwnRejected (init "ping-pong" ∅ (buildContentTopics "ping-pong" "0" ["table"]))
        [.publish "0x01", .record "0x01", .signal tableSignal []] := by
  have hrun : (Run.run step (init "ping-pong" ∅ (buildContentTopics "ping-pong" "0" ["table"]))
      [.publish "0x01", .record "0x01", .signal tableSignal []]).isSome = true := by decide
  obtain ⟨s, hs⟩ := Option.isSome_iff_exists.mp hrun
  refine ⟨s, hs, (own_rejected_iff hs).mpr ⟨?_, fun s₁ h₁ => ⟨?_, fun s₂ h₂ => ⟨?_, ?_⟩⟩⟩⟩
  · exact fun _ _ _ _ he => absurd he (by simp)
  · exact fun _ _ _ _ he => absurd he (by simp)
  · -- nothing is being sent any more
    obtain rfl := Option.some.inj h₁
    obtain rfl := Option.some.inj h₂
    exact fun _ _ _ _ _ _ hsending => absurd hsending (by simp [init])
  · exact fun _ _ => trivial

end Agent

end GraphcastSdk
