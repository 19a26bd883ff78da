import GraphcastSdk.Agent

/-!
# The agent lock by lock

`handle_signal` locks `seen_msg_ids` for its lookup and insert and keeps that lock while it locks
`content_topics` for the topic check. Here these are two steps, and everything that the locks do
not exclude may run between them: `send_message` cannot insert an id and no second signal is
handled, but topics are updated and messages published.

* `locks_refine`: this machine runs as `Agent` does, where handling a signal is one step.
* `locks_channel_distinct`: so it forwards every message id at most once.
-/

namespace GraphcastSdk

/-- A `handle_signal` call that has inserted its id and not checked its topic. -/
structure Handling where
  signal : Signal
  id : String
  wakuMessage : WakuMessage

/-- The agent, and the call that holds the lock on `seen_msg_ids`. -/
structure AgentLocks where
  agent : Agent
  handling : Option Handling

namespace AgentLocks

inductive Event where
  /-- `handle_signal` locks the ids, looks its id up and inserts it. -/
  | lockIds (signal : Signal)
  /-- It locks the topics, checks its own and returns. -/
  | checkTopic
  | publish (id : String)
  | record (id : String)
  | update (subtopics : List String)

def step (s : AgentLocks) : Event → Option AgentLocks
  | .lockIds signal =>
    match s.handling, signal.event with
    | some _, _ => none
    | none, .wakuMessage id m =>
      if id ∈ s.agent.seenMsgIds then some s
      else some { agent := { s.agent with seenMsgIds := insert id s.agent.seenMsgIds }
                  handling := some ⟨signal, id, m⟩ }
    | none, .unrecognized _ => some s
    | none, .other => some s
  | .checkTopic =>
    match s.handling with
    | some call =>
      if matchContentTopic s.agent.contentTopics call.wakuMessage.contentTopic then
        some { agent := { s.agent with
                 channel := s.agent.channel ++ [(call.id, call.wakuMessage)] }
               handling := none }
      else some { s with handling := none }
    | none => none
  | .publish id => (s.agent.step (.publish id)).map fun agent => { s with agent }
  | .record id =>
    match s.handling with
    | some _ => none
    | none => (s.agent.step (.record id)).map fun agent => { s with agent }
  | .update subtopics => (s.agent.step (.update subtopics)).map fun agent => { s with agent }

/-- `a` is the agent before the signal that is being handled, if there is one; since then its
topics were updated. -/
def Sim (s : AgentLocks) (a : Agent) : Prop :=
  match s.handling with
  | none => s.agent = a
  | some call => call.signal.event = .wakuMessage call.id call.wakuMessage ∧
      call.id ∉ a.seenMsgIds ∧ ∃ updates, s.agent =
        { a.updateAll updates with seenMsgIds := insert call.id a.seenMsgIds }

variable {s s' : AgentLocks} {a : Agent}

/-! ## One call, atomically -/

/-- A message seen before leaves the agent as it was. -/
theorem step_signal_of_seen {signal : Signal} {id : String} {m : WakuMessage}
    (he : signal.event = .wakuMessage id m) (hid : id ∈ a.seenMsgIds) :
    a.step (.signal signal []) = some a := by
  have hseen : (handleSignal signal a.seenMsgIds a.contentTopics).2 = a.seenMsgIds := by
    unfold handleSignal
    simp only [he, if_pos hid]
  have hverdict : ∀ m', a.verdict signal [] ≠ .ok m' := by
    intro m' hok
    obtain ⟨id', he', hnew, -⟩ := Agent.verdict_eq_ok.mp hok
    obtain ⟨rfl, -⟩ := WakuEvent.wakuMessage.inj (he.symm.trans he')
    exact hnew hid
  rcases Agent.forwarded_cases signal (a.verdict signal []) with hf | ⟨_, _, m', _, hok, _⟩
  · simp only [Agent.step, Agent.updateAll, List.foldl_nil, hseen, hf, List.append_nil]
  · exact absurd hok (hverdict m')

/-- A new message, with the topics updated before its topic check. -/
theorem step_signal_of_new {signal : Signal} {id : String} {m : WakuMessage}
    (he : signal.event = .wakuMessage id m) (hid : id ∉ a.seenMsgIds)
    (updates : List (List String)) :
    a.step (.signal signal updates) = some { a.updateAll updates with
      seenMsgIds := insert id a.seenMsgIds
      channel := a.channel ++
        if matchContentTopic (a.updateAll updates).contentTopics m.contentTopic then [(id, m)]
        else [] } := by
  simp only [Agent.step, Agent.verdict, handleSignal, he, if_neg hid]
  by_cases hmatch : matchContentTopic (a.updateAll updates).contentTopics m.contentTopic = true
  · simp only [hmatch, Bool.not_true, Bool.false_eq_true, if_false, if_true, Agent.forwarded, he]
  · rw [Bool.not_eq_true] at hmatch
    simp only [hmatch, Bool.not_false, Bool.false_eq_true, if_false, if_true, Agent.forwarded, he]

/-- Publishing commutes with updates. -/
theorem updateAll_publish (id : String) (updates : List (List String)) :
    ({ a with published := a.published ++ [id], sending := a.sending ++ [id] } : Agent).updateAll
        updates =
      { a.updateAll updates with
        published := a.published ++ [id]
        sending := a.sending ++ [id] } := by
  induction updates generalizing a with
  | nil => rfl
  | cons subtopics updates ih => exact @ih (a.updateContentTopics subtopics)

/-! ## The refinement -/

theorem sim_lockIds {signal : Signal} (hs : Sim s a) (h : s.step (.lockIds signal) = some s') :
    ∃ es a', Run.run Agent.step a es = some a' ∧ Sim s' a' := by
  obtain ⟨agent, handling⟩ := s
  cases handling with
  | some call => exact absurd h (by simp [step])
  | none =>
    have hagent : agent = a := hs
    subst hagent
    have idle : some ⟨agent, none⟩ = some s' →
        ∃ es a', Run.run Agent.step agent es = some a' ∧ Sim s' a' := by
      intro h
      obtain rfl := Option.some.inj h
      exact ⟨[], agent, rfl, rfl⟩
    simp only [step] at h
    cases he : signal.event with
    | unrecognized data =>
      rw [he] at h
      exact idle h
    | other =>
      rw [he] at h
      exact idle h
    | wakuMessage id m =>
      rw [he] at h
      dsimp only at h
      split at h
      · rename_i hid
        obtain rfl := Option.some.inj h
        exact ⟨[.signal signal []], agent, Run.run_one (step_signal_of_seen he hid), rfl⟩
      · rename_i hid
        obtain rfl := Option.some.inj h
        exact ⟨[], agent, rfl, he, hid, [], rfl⟩

theorem sim_checkTopic (hs : Sim s a) (h : s.step .checkTopic = some s') :
    ∃ es a', Run.run Agent.step a es = some a' ∧ Sim s' a' := by
  obtain ⟨agent, handling⟩ := s
  cases handling with
  | none => exact absurd h (by simp [step])
  | some call =>
    obtain ⟨he, hid, updates, hagent⟩ := hs
    dsimp only at hagent
    have hstep := step_signal_of_new he hid updates
    obtain ⟨topics, ht⟩ := Agent.updateAll_eq a updates
    have hchannel : agent.channel = a.channel := by rw [hagent, ht]
    have htopics : agent.contentTopics = (a.updateAll updates).contentTopics := by rw [hagent]
    refine ⟨[.signal call.signal updates], _, Run.run_one hstep, ?_⟩
    simp only [step, hchannel, htopics] at h
    split at h
    · rename_i hmatch
      obtain rfl := Option.some.inj h
      show (_ : Agent) = _
      rw [if_pos hmatch, hagent]
    · rename_i hmatch
      obtain rfl := Option.some.inj h
      show agent = _
      rw [if_neg hmatch, List.append_nil, hagent, ht]

/-- Every step between two locks is one of the atomic machine, or is taken up by the signal that
is being handled. -/
theorem sim_step {e : Event} (hs : Sim s a) (h : s.step e = some s') :
    ∃ es a', Run.run Agent.step a es = some a' ∧ Sim s' a' := by
  cases e with
  | lockIds signal => exact sim_lockIds hs h
  | checkTopic => exact sim_checkTopic hs h
  | publish id =>
    simp only [step] at h
    obtain ⟨agent', hagent', rfl⟩ := Option.map_eq_some_iff.mp h
    obtain rfl := Option.some.inj hagent'
    refine ⟨[.publish id], _, rfl, ?_⟩
    obtain ⟨agent, handling⟩ := s
    cases handling with
    | none =>
      have hs : agent = a := hs
      subst hs
      rfl
    | some call =>
      obtain ⟨he, hid, updates, hagent⟩ := hs
      refine ⟨he, hid, updates, ?_⟩
      obtain ⟨topics, ht⟩ := Agent.updateAll_eq a updates
      dsimp only at hagent ⊢
      rw [updateAll_publish, hagent, ht]
  | record id =>
    obtain ⟨agent, handling⟩ := s
    cases handling with
    | some call => exact absurd h (by simp [step])
    | none =>
      have hs : agent = a := hs
      subst hs
      obtain ⟨agent', hagent', rfl⟩ := Option.map_eq_some_iff.mp h
      exact ⟨[.record id], agent', Run.run_one hagent', rfl⟩
  | update subtopics =>
    simp only [step] at h
    obtain ⟨agent', hagent', rfl⟩ := Option.map_eq_some_iff.mp h
    obtain rfl := Option.some.inj hagent'
    obtain ⟨agent, handling⟩ := s
    cases handling with
    | none =>
      have hs : agent = a := hs
      subst hs
      exact ⟨[.update subtopics], _, rfl, rfl⟩
    | some call =>
      -- the update joins those of the signal, which is not handled yet
      obtain ⟨he, hid, updates, hagent⟩ := hs
      refine ⟨[], a, rfl, he, hid, updates ++ [subtopics], ?_⟩
      dsimp only at hagent ⊢
      rw [hagent]
      simp only [Agent.updateAll, List.foldl_append, List.foldl_cons, List.foldl_nil,
        Agent.updateContentTopics]

/-- **The lock-by-lock machine refines the atomic one.** -/
theorem locks_refine {radioName : String} {seenMsgIds : Finset String}
    {contentTopics : List WakuContentTopic} {es : List Event}
    (hr : Run.run step ⟨.init radioName seenMsgIds contentTopics, none⟩ es = some s) :
    ∃ es' a, Run.run Agent.step (.init radioName seenMsgIds contentTopics) es' = some a ∧
      Sim s a := by
  have hinit : Sim ⟨.init radioName seenMsgIds contentTopics, none⟩
      (.init radioName seenMsgIds contentTopics) := rfl
  exact Run.run_simulation (fun _ _ _ _ hs h => sim_step hs h) hinit hr

/-- Lock by lock too, every message id is forwarded at most once. -/
theorem locks_channel_distinct {radioName : String} {seenMsgIds : Finset String}
    {contentTopics : List WakuContentTopic} {es : List Event}
    (hr : Run.run step ⟨.init radioName seenMsgIds contentTopics, none⟩ es = some s) :
    (s.agent.channel.map Prod.fst).Nodup := by
  obtain ⟨es', a, ha, hs⟩ := locks_refine hr
  have hinv := Run.run_invariant (fun _ _ _ hi h => Agent.inv_step hi h) Agent.inv_init ha
  obtain ⟨agent, handling⟩ := s
  cases handling with
  | none =>
    have hs : agent = a := hs
    exact hs ▸ hinv.distinct
  | some call =>
    obtain ⟨-, -, updates, hagent⟩ := hs
    obtain ⟨topics, ht⟩ := Agent.updateAll_eq a updates
    dsimp only at hagent
    rw [hagent, ht]
    exact hinv.distinct

end AgentLocks

end GraphcastSdk
